import TypedDocument.Proofs.Path.Reading
import TypedDocument.Proofs.Path.Walk
import TypedDocument.Proofs.Reordering.Basic
import TypedDocument.Proofs.Session

/-!
# Walks in preorder

The entries that keys lead to are listed in preorder, each with the keys of the mappings it lies in.
A walk reports these entries one after the other, each with the path of its keys, up to the first
key with a dot. It does so in whatever state it was before it began, and after its end there is
nothing more to come.
-/

namespace TypedDocument

/-- The path of a chain of keys, which are joined one after the other. -/
def Path.joined : List String → String
  | [] => ""
  | key :: rest => rest.foldl Path.join key

/-- An entry that keys lead to: the keys of the mappings it lies in, its own key and its value. -/
structure Visit where
  parents : List String
  key : String
  value : Value

namespace Visit

/-- The keys that lead to an entry. -/
def chain (e : Visit) : List String := e.parents ++ [e.key]

def path (e : Visit) : String := Path.joined e.chain

/-- Whether a path can go on with the key of an entry. -/
def isNamable (e : Visit) : Bool := !Path.isDotted e.key

end Visit

mutual

/-- The entries below a value that `parents` lead to, in preorder: each one before those below it,
and these before its later siblings. Lists are not entered. -/
def Value.visits (parents : List String) : Value → List Visit
  | .map es => Mapping.visits parents es
  | _ => []
termination_by structural v => v

/-- The entries of a mapping that `parents` lead to, each followed by those below it. -/
def Mapping.visits (parents : List String) : List (String × Value) → List Visit
  | [] => []
  | (key, v) :: rest =>
    ⟨parents, key, v⟩ :: (v.visits (parents ++ [key]) ++ Mapping.visits parents rest)
termination_by structural es => es

end

namespace Walk

/-- What is reported of entries: their paths and values, up to the first key with a dot, which is
an error. -/
def report : List Visit → List WalkItem
  | [] => []
  | e :: rest =>
    if Path.isDotted e.key then [.error (.dottedKey e.key)]
    else .ok (e.path, e.value) :: report rest

/-- What a walk can be asked for: to begin anew or to go on. -/
inductive Request where
  | start
  | next

/-- The answer of a walk of a document, and what is still to be visited then. -/
def answer (doc : Value) (w : Walk) : Request → Option WalkItem × Walk
  | .start => (none, start doc)
  | .next =>
    match w.next with
    | some (item, w') => (some item, w')
    | none => (none, [])

end Walk

variable {doc v w : Value} {es : Mapping} {key : String} {parents chain more : List String}
  {e : Visit} {xs ys : List Visit}

/-! ## Reports -/

namespace Path

/-- The path of the mapping that keys lead to, as the frame of a walk has it. -/
def parentPath : List String → Option String
  | [] => none
  | key :: rest => some (joined (key :: rest))

@[simp] theorem path_parentPath (parents : List String) (key : String) :
    WalkFrame.path (parentPath parents) key = joined (parents ++ [key]) := by
  match parents with
  | [] => rfl
  | k :: rest =>
    rw [List.cons_append, joined, List.foldl_append]
    rfl

@[simp] theorem parentPath_concat (parents : List String) (key : String) :
    parentPath (parents ++ [key]) = some (joined (parents ++ [key])) := by
  match parents with
  | [] => rfl
  | k :: rest => rfl

end Path

namespace Walk

theorem report_append (xs ys : List Visit) :
    report (xs ++ ys) = report xs ++ if xs.all Visit.isNamable then report ys else [] := by
  induction xs with
  | nil => rfl
  | cons e rest ih =>
    rw [List.cons_append, report, report, List.all_cons, ih, Visit.isNamable]
    cases Path.isDotted e.key <;> rfl

theorem report_of_namable (h : ∀ e ∈ xs, e.isNamable = true) :
    report xs = xs.map fun e => .ok (e.path, e.value) := by
  induction xs with
  | nil => rfl
  | cons e rest ih =>
    obtain ⟨he, hrest⟩ := List.forall_mem_cons.mp h
    rw [Visit.isNamable, Bool.not_eq_true'] at he
    rw [report, he, if_neg Bool.false_ne_true, ih hrest, List.map_cons]

/-- A report without errors is of all entries. -/
theorem namable_of_report (h : ∀ error, .error error ∉ report xs) :
    ∀ e ∈ xs, e.isNamable = true := by
  induction xs with
  | nil => exact fun e he => by cases he
  | cons e rest ih =>
    rw [report] at h
    split at h
    · exact absurd List.mem_cons_self (h _)
    · next hdotted =>
      refine List.forall_mem_cons.mpr ⟨?_, ih fun error herror => ?_⟩
      · rw [Visit.isNamable, Bool.not_eq_true']
        exact Bool.eq_false_iff.mpr hdotted
      · exact h error (List.mem_cons_of_mem _ herror)

end Walk

/-! ## The recursive walk -/

/-- The recursive walk of a mapping reports its entries, if that of each value does. -/
theorem Mapping.preorder_eq_of_values
    (ih : ∀ key v, (key, v) ∈ es → ∀ parents key, v.preorder (Path.joined (parents ++ [key])) =
      (Walk.report (v.visits (parents ++ [key])),
        (v.visits (parents ++ [key])).all Visit.isNamable))
    (parents : List String) :
    Mapping.preorder (Path.parentPath parents) es =
      (Walk.report (Mapping.visits parents es),
        (Mapping.visits parents es).all Visit.isNamable) := by
  induction es with
  | nil => rfl
  | cons entry rest ihrest =>
    obtain ⟨key, v⟩ := entry
    have hv := ih key v List.mem_cons_self parents key
    have hrest := ihrest fun k w hw => ih k w (List.mem_cons_of_mem _ hw)
    simp only [Mapping.preorder, Mapping.visits, Walk.report, List.all_cons, List.all_append,
      Visit.isNamable, Walk.report_append, Path.path_parentPath, hv, hrest]
    cases Path.isDotted key with
    | true => rfl
    | false =>
      cases (v.visits (parents ++ [key])).all Visit.isNamable with
      | true => rfl
      | false => simp [Visit.path, Visit.chain]

/-- The recursive walk below a value reports the entries there. -/
theorem Value.preorder_eq (v : Value) :
    ∀ parents key, v.preorder (Path.joined (parents ++ [key])) =
      (Walk.report (v.visits (parents ++ [key])),
        (v.visits (parents ++ [key])).all Visit.isNamable) := by
  induction v using mappingInduction with
  | plain v hv =>
    intro parents key
    cases v with
    | map => cases hv
    | _ => rfl
  | map es ih =>
    intro parents key
    rw [preorder, ← Path.parentPath_concat]
    exact Mapping.preorder_eq_of_values ih (parents ++ [key])

theorem Value.visits_of_map?_eq_none (h : doc.map? = none) (parents : List String) :
    doc.visits parents = [] := by
  cases doc with
  | map => cases h
  | _ => rfl

/-- A walk reports the entries of the document in preorder. -/
theorem Path.walk_eq_report (doc : Value) : Path.walk doc = Walk.report (doc.visits []) := by
  match hmap : doc.map? with
  | some es =>
    rw [Value.map?_eq_some_iff.mp hmap, walk_map]
    exact congrArg Prod.fst (Mapping.preorder_eq_of_values (fun _ v _ => v.preorder_eq) [])
  | none =>
    have hstart : Walk.start doc = [] := by
      cases doc with
      | map => cases hmap
      | _ => rfl
    rw [walk, hstart, Walk.toList_of_next_eq_none rfl, Value.visits_of_map?_eq_none hmap]
    rfl

/-! ## The steps of a walk -/

namespace Walk

/-- Each step gives the next item of the walk that is left, and after the last one there is
none. -/
theorem answers_next (doc : Value) (n : Nat) (w : Walk) :
    (session (answer doc) (List.replicate n .next) w).1 =
      (List.range n).map fun i => w.toList[i]? := by
  induction n generalizing w with
  | zero => rfl
  | succ n ih =>
    rw [List.replicate_succ, fst_session_cons, ih, List.range_succ_eq_map, List.map_cons,
      List.map_map]
    match hnext : w.next with
    | none =>
      have hleft : (answer doc w .next) = (none, []) := by rw [answer, hnext]
      rw [hleft, toList_of_next_eq_none hnext, toList_of_next_eq_none rfl]
      rfl
    | some (item, w') =>
      have hleft : (answer doc w .next) = (some item, w') := by rw [answer, hnext]
      rw [hleft, toList_of_next_eq_some hnext]
      rfl

end Walk

/-! ## The entries in preorder -/

theorem Mapping.mem_visits_iff :
    e ∈ Mapping.visits parents es ↔
      ∃ key v, (key, v) ∈ es ∧ (e = ⟨parents, key, v⟩ ∨ e ∈ v.visits (parents ++ [key])) := by
  induction es with
  | nil => simp [Mapping.visits]
  | cons entry rest ih =>
    obtain ⟨key, v⟩ := entry
    rw [Mapping.visits, List.mem_cons, List.mem_append, ih, ← or_assoc]
    constructor
    · rintro (h | ⟨k, w, hw, h⟩)
      · exact ⟨key, v, List.mem_cons_self, h⟩
      · exact ⟨k, w, List.mem_cons_of_mem _ hw, h⟩
    · rintro ⟨k, w, hw, h⟩
      rcases List.mem_cons.mp hw with hw | hw
      · cases hw
        exact .inl h
      · exact .inr ⟨k, w, hw, h⟩

/-- The entries below a value are what keys lead to. -/
theorem Value.mem_visits_iff (hv : v.Proper) :
    e ∈ v.visits parents ↔
      ∃ more, e.parents = parents ++ more ∧
        v.at? ((more ++ [e.key]).map .key) = some e.value := by
  induction v using mappingInduction generalizing parents with
  | plain v hplain =>
    rw [visits_of_map?_eq_none hplain]
    refine iff_of_false List.not_mem_nil ?_
    rintro ⟨more, -, h⟩
    rw [at?_of_map?_eq_none hplain (by simp)] at h
    cases h
  | map es ih =>
    obtain ⟨hdistinct, hvalues⟩ := proper_map_iff.mp hv
    rw [visits, Mapping.mem_visits_iff]
    constructor
    · rintro ⟨key, v, hmem, rfl | h⟩
      · exact ⟨[], (List.append_nil _).symm, by
          rw [List.nil_append, List.map_cons, List.map_nil, at?_singleton]
          exact (Entries.mem_iff_get? hdistinct).mp hmem⟩
      · obtain ⟨more, hparents, hat⟩ := (ih key v hmem (hvalues key v hmem)).mp h
        refine ⟨key :: more, by rw [hparents, List.append_assoc]; rfl, ?_⟩
        rw [List.cons_append, List.map_cons, at?, child?,
          (Entries.mem_iff_get? hdistinct).mp hmem, Option.bind_some, hat]
    · rintro ⟨more, hparents, hat⟩
      cases more with
      | nil =>
        rw [List.nil_append, List.map_cons, List.map_nil, at?_singleton] at hat
        refine ⟨e.key, e.value, Entries.mem_of_get?_eq_some hat, .inl ?_⟩
        rw [← List.append_nil parents, ← hparents]
      | cons key more =>
        rw [List.cons_append, List.map_cons, at?, Option.bind_eq_some_iff] at hat
        obtain ⟨v, hget, hat⟩ := hat
        have hmem := Entries.mem_of_get?_eq_some hget
        refine ⟨key, v, hmem, .inr ((ih key v hmem (hvalues key v hmem)).mpr ⟨more, ?_, hat⟩)⟩
        rw [hparents, List.append_assoc]
        rfl

/-- An entry of a document is visited exactly if its keys lead to its value. -/
theorem Value.mem_visits_nil_iff (hdoc : doc.Proper) :
    e ∈ doc.visits [] ↔ doc.at? (e.chain.map .key) = some e.value := by
  rw [mem_visits_iff hdoc]
  simp [Visit.chain]

theorem Value.exists_chain_of_mem_visits (v : Value) :
    ∀ parents, ∀ e ∈ v.visits parents, ∃ key more, e.chain = parents ++ key :: more := by
  induction v using mappingInduction with
  | plain v hv =>
    intro parents e he
    rw [visits_of_map?_eq_none hv] at he
    cases he
  | map es ih =>
    intro parents e he
    obtain ⟨key, v, hmem, rfl | he⟩ := Mapping.mem_visits_iff.mp he
    · exact ⟨key, [], rfl⟩
    · obtain ⟨k, more, hchain⟩ := ih key v hmem (parents ++ [key]) e he
      exact ⟨key, k :: more, by rw [hchain, List.append_assoc]; rfl⟩

theorem Mapping.exists_chain_of_mem_visits (h : e ∈ Mapping.visits parents es) :
    ∃ key ∈ Entries.keys es, ∃ more, e.chain = parents ++ key :: more := by
  obtain ⟨key, v, hmem, he⟩ := mem_visits_iff.mp h
  refine ⟨key, List.mem_map_of_mem (f := (·.1)) hmem, ?_⟩
  rcases he with rfl | he
  · exact ⟨[], rfl⟩
  · obtain ⟨k, more, hchain⟩ := v.exists_chain_of_mem_visits (parents ++ [key]) e he
    exact ⟨k :: more, by rw [hchain, List.append_assoc]; rfl⟩

theorem Mapping.nodup_visits_of_values
    (ih : ∀ key v, (key, v) ∈ es → ∀ parents, ((v.visits parents).map Visit.chain).Nodup)
    (hes : Entries.Distinct es) (parents : List String) :
    ((Mapping.visits parents es).map Visit.chain).Nodup := by
  induction es with
  | nil => exact List.nodup_nil
  | cons entry rest ihrest =>
    obtain ⟨key, v⟩ := entry
    obtain ⟨hkey, hrest⟩ := Entries.distinct_cons_iff.mp hes
    rw [Mapping.visits, List.map_cons, List.map_append, List.nodup_cons, List.nodup_append]
    refine ⟨?_, ih key v List.mem_cons_self (parents ++ [key]),
      ihrest (fun k w hw => ih k w (List.mem_cons_of_mem _ hw)) hrest, ?_⟩
    · rw [List.mem_append, List.mem_map, List.mem_map]
      rintro (⟨e, he, hchain⟩ | ⟨e, he, hchain⟩)
      · -- An entry below has more keys.
        obtain ⟨k, more, hbelow⟩ := v.exists_chain_of_mem_visits (parents ++ [key]) e he
        have hlength := congrArg List.length (hbelow.symm.trans hchain)
        simp [Visit.chain] at hlength
      · obtain ⟨k, hk, more, hbeside⟩ := Mapping.exists_chain_of_mem_visits he
        have hsame : k = key :=
          (List.cons.inj (List.append_cancel_left (hbeside.symm.trans hchain))).1
        exact hkey (hsame ▸ hk)
    · intro chain hchain other hother hsame
      obtain ⟨e, he, rfl⟩ := List.mem_map.mp hchain
      obtain ⟨d, hd, rfl⟩ := List.mem_map.mp hother
      obtain ⟨k, more, hbelow⟩ := v.exists_chain_of_mem_visits (parents ++ [key]) e he
      obtain ⟨k', hk', more', hbeside⟩ := Mapping.exists_chain_of_mem_visits hd
      rw [hbelow, hbeside, List.append_assoc] at hsame
      exact hkey ((List.cons.inj (List.append_cancel_left hsame)).1 ▸ hk')

/-- Every entry is visited once. -/
theorem Value.nodup_visits {v : Value} :
    v.Proper → ∀ parents, ((v.visits parents).map Visit.chain).Nodup := by
  induction v using mappingInduction with
  | plain v hv =>
    intro _ parents
    rw [visits_of_map?_eq_none hv]
    exact List.nodup_nil
  | map es ih =>
    intro hv parents
    obtain ⟨hdistinct, hvalues⟩ := proper_map_iff.mp hv
    exact Mapping.nodup_visits_of_values (fun key v hmem => ih key v hmem (hvalues key v hmem))
      hdistinct parents

/-! ## The lazy walk -/

/-- A lazy walk gives the entries of the document in preorder, one with each step, whatever was
asked of walks before, and then nothing any more. Up to the first key with a dot, which is an error
and the end, these are all the entries that keys lead to, each of them once. There are none if the
document is no mapping. -/
theorem Walk.answers_preorder (doc : Value) :
    (∀ before n w,
      (session (answer doc) (before ++ .start :: List.replicate n .next) w).1 =
        (session (answer doc) before w).1 ++
          none :: (List.range n).map fun i => (report (doc.visits []))[i]?) ∧
    (doc.map? = none → report (doc.visits []) = []) ∧
    (doc.Proper → ((doc.visits []).map Visit.chain).Nodup ∧
      ∀ e, e ∈ doc.visits [] ↔ doc.at? (e.chain.map .key) = some e.value) := by
  refine ⟨fun before n w => ?_, fun hmap => ?_, fun hdoc => ⟨?_, fun e => ?_⟩⟩
  · rw [session_append, fst_session_cons, answers_next, ← Path.walk_eq_report]
    rfl
  · rw [Value.visits_of_map?_eq_none hmap]
    rfl
  · exact Value.nodup_visits hdoc []
  · exact Value.mem_visits_nil_iff hdoc

/-- Between two walks, one step is left out. The empty mapping is an entry like any other, and so is
the list. The key with a dot ends the walk, and nothing is reported of a list alone. -/
theorem Walk.answers_preorder_outline :
    let doc : Value := .map [("a", .map []), ("b", .map [("c", .list [.map [("d", .null)]])]),
      ("e.f", .map [("g", .null)]), ("h", .int 1)]
    doc.Proper ∧
    (session (answer doc) [.next, .start, .next, .start, .next, .next, .next, .next, .next] []).1 =
      [none, none, some (.ok ("a", .map [])), none, some (.ok ("a", .map [])),
        some (.ok ("b", .map [("c", .list [.map [("d", .null)]])])),
        some (.ok ("b.c", .list [.map [("d", .null)]])), some (.error (.dottedKey "e.f")), none] ∧
    ⟨["e.f"], "g", .null⟩ ∈ doc.visits [] ∧
    (Value.list [doc]).map? = none ∧ report ((Value.list [doc]).visits []) = [] := by
  intro doc
  have hdoc : doc.Proper := by decide
  obtain ⟨hanswers, -, hvisits⟩ := answers_preorder doc
  obtain ⟨-, hnone, -⟩ := answers_preorder (.list [doc])
  refine ⟨hdoc, ?_, ((hvisits hdoc).2 ⟨["e.f"], "g", .null⟩).mpr rfl, rfl, hnone rfl⟩
  exact hanswers [.next, .start, .next] 5 []

end TypedDocument
