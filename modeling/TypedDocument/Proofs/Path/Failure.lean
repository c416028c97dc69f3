import TypedDocument.Proofs.Document.Containers
import TypedDocument.Proofs.Path.Writing

/-!
# Writes that fail

A write fails in one of two ways. Either its segments run into a value that cannot take the next
one; then nothing has been created yet, because a created container always fits the segment it is
created for, and the value is as it was. Or a list cannot be made long enough; then containers may
have been created in the place of nulls and of missing values, but nothing else has changed.
-/

namespace TypedDocument

namespace Value

variable {limit : Nat} {new u v w c d : Value} {s : Segment} {chain rest : List Segment}
  {fault : WriteFault} {items items' : List Value} {es es' : Mapping}

/-! ## Values in the way -/

/-- Some of the segments lead to a value that cannot take the next one. A null is in the way only
at the root, since anywhere else a container takes its place. -/
def Blocked (chain : List Segment) (v : Value) : Prop :=
  ∃ parent s rest u, chain = parent ++ s :: rest ∧ v.at? parent = some u ∧ u.takes s = false ∧
    (parent ≠ [] → u ≠ null)

theorem not_blocked_nil : ¬ Blocked [] v := by
  rintro ⟨parent, s, rest, u, hchain, -⟩
  cases parent <;> cases hchain

theorem blocked_cons_iff :
    Blocked (s :: rest) v ↔
      v.takes s = false ∨ ∃ c, v.child? s = some c ∧ c ≠ null ∧ Blocked rest c := by
  constructor
  · rintro ⟨parent, t, more, u, hchain, hu, htakes, hnull⟩
    cases parent with
    | nil =>
      cases hchain
      cases hu
      exact .inl htakes
    | cons p parent =>
      obtain ⟨rfl, rfl⟩ := List.cons.inj hchain
      obtain ⟨c, hc, hu⟩ := Option.bind_eq_some_iff.mp hu
      have hu_ne := hnull (List.cons_ne_nil s parent)
      refine .inr ⟨c, hc, ?_, parent, t, more, u, rfl, hu, htakes, fun _ => hu_ne⟩
      cases parent with
      | nil =>
        cases hu
        exact hu_ne
      | cons => exact ne_null_of_at? hu (List.cons_ne_nil _ _)
  · rintro (htakes | ⟨c, hc, hc_ne, parent, t, more, u, rfl, hu, htakes, hnull⟩)
    · exact ⟨[], s, rest, v, rfl, rfl, htakes, fun h => absurd rfl h⟩
    · refine ⟨s :: parent, t, more, u, rfl, ?_, htakes, fun _ => ?_⟩
      · rw [at?, hc, Option.bind_some, hu]
      · cases parent with
        | nil =>
          cases hu
          exact hc_ne
        | cons => exact hnull (List.cons_ne_nil _ _)

/-- A write that is blocked changes nothing. -/
theorem write_of_blocked (h : Blocked chain v) :
    write limit new chain v = (v, some .notAContainer) := by
  induction chain generalizing v with
  | nil => exact absurd h not_blocked_nil
  | cons s rest ih =>
    rcases blocked_cons_iff.mp h with htakes | ⟨c, hc, hc_ne, hbelow⟩
    · exact write_cons_of_not_takes htakes
    · rw [write_cons (takes_of_child? hc) (hasRoom_of_child? hc), hc, room_of_ne_null hc_ne,
        ih hbelow, padded_of_child? hc, setChild_of_child? hc]

/-- Created containers fit the segments that follow. -/
theorem snd_write_placeholder_ne (rest : List Segment) :
    (write limit new rest (placeholder rest)).2 ≠ some .notAContainer := by
  induction rest with
  | nil => exact Option.some_ne_none _ |>.symm
  | cons s rest ih =>
    have htakes : (placeholder (s :: rest)).takes s = true := by cases s <;> rfl
    have hchild : (placeholder (s :: rest)).child? s = none := by cases s <;> rfl
    cases hroom : (placeholder (s :: rest)).hasRoom limit s with
    | false =>
      rw [write_cons_of_not_hasRoom hroom]
      simp
    | true =>
      rw [write_cons htakes hroom, hchild]
      exact ih

theorem snd_write_eq_notAContainer_iff :
    (write limit new chain v).2 = some .notAContainer ↔ Blocked chain v := by
  refine ⟨fun h => ?_, fun h => by rw [write_of_blocked h]⟩
  induction chain generalizing v with
  | nil => cases h
  | cons s rest ih =>
    refine blocked_cons_iff.mpr ?_
    cases htakes : v.takes s with
    | false => exact .inl rfl
    | true =>
      cases hroom : v.hasRoom limit s with
      | false =>
        rw [write_cons_of_not_hasRoom hroom] at h
        cases h
      | true =>
        rw [write_cons htakes hroom] at h
        refine .inr ?_
        cases hc : v.child? s with
        | none =>
          rw [hc] at h
          exact absurd h (snd_write_placeholder_ne rest)
        | some c =>
          rw [hc] at h
          by_cases hc_ne : c = null
          · subst hc_ne
            exact absurd h (snd_write_placeholder_ne rest)
          · rw [room_of_ne_null hc_ne] at h
            exact ⟨c, rfl, hc_ne, ih h⟩

/-! ## Values that grow -/

/-- A null, or a container that is built of nulls and containers only. -/
def IsBlank (v : Value) : Prop := v.Everywhere fun w => w = null ∨ w.isContainer = true

theorem isBlank_null : null.IsBlank := (everywhere_leaf_iff rfl).mpr (.inl rfl)

@[simp] theorem isBlank_list_iff : (list items).IsBlank ↔ ∀ v ∈ items, v.IsBlank :=
  everywhere_list_iff.trans (and_iff_right (.inr rfl))

@[simp] theorem isBlank_map_iff : (map es).IsBlank ↔ ∀ key v, (key, v) ∈ es → v.IsBlank :=
  everywhere_map_iff.trans (and_iff_right (.inr rfl))

theorem IsBlank.child? (h : v.IsBlank) (hc : v.child? s = some c) : c.IsBlank := by
  rcases exists_of_takes (takes_of_child? hc) with ⟨es, key, rfl, rfl⟩ | ⟨items, i, rfl, rfl⟩
  · exact isBlank_map_iff.mp h key c (Entries.mem_of_get?_eq_some hc)
  · exact isBlank_list_iff.mp h c (List.mem_of_getElem? hc)

mutual

/-- The second value is the first one with nulls filled and with more at the end of lists and
mappings. Whatever is new is blank. -/
inductive Grown : Value → Value → Prop where
  | leaf {v : Value} (plain : v.isContainer = false) : Grown v v
  | filled {w : Value} (blank : w.IsBlank) : Grown .null w
  | list {items items' : List Value} (elements : ItemsGrown items items') :
    Grown (.list items) (.list items')
  | map {es es' : Mapping} (entries : EntriesGrown es es') : Grown (.map es) (.map es')

/-- All elements are still there, in their places, and what comes after them is blank. -/
inductive ItemsGrown : List Value → List Value → Prop where
  | new {items : List Value} (blank : ∀ v ∈ items, v.IsBlank) : ItemsGrown [] items
  | keep {v w : Value} {vs ws : List Value} (head : Grown v w) (tail : ItemsGrown vs ws) :
    ItemsGrown (v :: vs) (w :: ws)

/-- All entries are still there, in their order, and what comes after them is blank. -/
inductive EntriesGrown : List (String × Value) → List (String × Value) → Prop where
  | new {es : List (String × Value)} (blank : ∀ key v, (key, v) ∈ es → v.IsBlank) :
    EntriesGrown [] es
  | keep {key : String} {v w : Value} {es es' : List (String × Value)} (value : Grown v w)
    (rest : EntriesGrown es es') : EntriesGrown ((key, v) :: es) ((key, w) :: es')

end

theorem ItemsGrown.of_forall (h : ∀ v ∈ items, Grown v v) : ItemsGrown items items := by
  induction items with
  | nil => exact .new fun v hv => by cases hv
  | cons v rest ih =>
    exact .keep (h v List.mem_cons_self) (ih fun w hw => h w (List.mem_cons_of_mem v hw))

theorem EntriesGrown.of_forall (h : ∀ key v, (key, v) ∈ es → Grown v v) : EntriesGrown es es := by
  induction es with
  | nil => exact .new fun key v hv => by cases hv
  | cons e rest ih =>
    obtain ⟨key, v⟩ := e
    exact .keep (h key v List.mem_cons_self) (ih fun k w hw => h k w (List.mem_cons_of_mem _ hw))

/-- Nothing has to grow. -/
theorem Grown.refl (v : Value) : v.Grown v := by
  induction v using containerInduction with
  | leaf v hv => exact .leaf hv
  | list items ih => exact .list (.of_forall ih)
  | map es ih => exact .map (.of_forall ih)

@[simp] theorem grown_null_iff : null.Grown w ↔ w.IsBlank := by
  constructor
  · intro h
    cases h with
    | leaf => exact isBlank_null
    | filled blank => exact blank
  · exact .filled

@[simp] theorem grown_list_iff :
    (list items).Grown w ↔ ∃ items', w = list items' ∧ ItemsGrown items items' := by
  constructor
  · intro h
    cases h with
    | leaf plain => cases plain
    | list elements => exact ⟨_, rfl, elements⟩
  · rintro ⟨items', rfl, elements⟩
    exact .list elements

@[simp] theorem grown_map_iff : (map es).Grown w ↔ ∃ es', w = map es' ∧ EntriesGrown es es' := by
  constructor
  · intro h
    cases h with
    | leaf plain => cases plain
    | map entries => exact ⟨_, rfl, entries⟩
  · rintro ⟨es', rfl, entries⟩
    exact .map entries

/-- A scalar other than null cannot grow. -/
theorem Grown.eq_of_scalar (h : v.Grown w) (hscalar : v.isContainer = false) (hv : v ≠ null) :
    w = v := by
  cases h with
  | leaf => rfl
  | filled => exact absurd rfl hv
  | list => cases hscalar
  | map => cases hscalar

/-! ## Reading grown values -/

/-- What is found at a place before and after. What was there has grown, and what is new is
blank. -/
inductive Kept : Option Value → Option Value → Prop where
  | kept {v w : Value} (grown : v.Grown w) : Kept (some v) (some w)
  | new {w : Value} (blank : w.IsBlank) : Kept none (some w)
  | none : Kept none none

@[simp] theorem kept_none_iff {found : Option Value} :
    Kept none found ↔ ∀ w, found = some w → w.IsBlank := by
  constructor
  · rintro h w rfl
    cases h with
    | new blank => exact blank
  · intro h
    cases found with
    | none => exact .none
    | some w => exact .new (h w rfl)

theorem ItemsGrown.getElem? (h : ItemsGrown items items') :
    ∀ i : Nat, Kept items[i]? items'[i]? := by
  induction items generalizing items' with
  | nil =>
    intro i
    cases h with
    | new blank => exact kept_none_iff.mpr fun w hw => blank w (List.mem_of_getElem? hw)
  | cons v rest ih =>
    intro i
    cases h with
    | keep head tail =>
      cases i with
      | zero => exact .kept head
      | succ i => exact ih tail i

theorem EntriesGrown.get? (h : EntriesGrown es es') (key : String) :
    Kept (Entries.get? key es) (Entries.get? key es') := by
  induction es generalizing es' with
  | nil =>
    cases h with
    | new blank =>
      exact kept_none_iff.mpr fun w hw => blank key w (Entries.mem_of_get?_eq_some hw)
  | cons e rest ih =>
    obtain ⟨k, v⟩ := e
    cases h with
    | keep value tail =>
      rw [Entries.get?, Entries.get?]
      split
      · exact .kept value
      · exact ih tail

theorem Grown.child? (h : v.Grown w) (s : Segment) : Kept (v.child? s) (w.child? s) := by
  cases h with
  | leaf plain =>
    have hnone : v.child? s = none := by
      cases v <;> cases s <;> first | rfl | cases plain
    rw [hnone]
    exact .none
  | filled blank => exact kept_none_iff.mpr fun d hd => blank.child? hd
  | list elements =>
    cases s with
    | key key => exact .none
    | index i => exact elements.getElem? i
  | map entries =>
    cases s with
    | key key => exact entries.get? key
    | index i => exact .none

theorem IsBlank.at? (h : v.IsBlank) (hu : v.at? chain = some u) : u.IsBlank := by
  induction chain generalizing v with
  | nil =>
    cases hu
    exact h
  | cons s rest ih =>
    obtain ⟨c, hc, hu⟩ := Option.bind_eq_some_iff.mp hu
    exact ih (h.child? hc) hu

/-- Segments lead to what has grown, or to something new and blank. -/
theorem Grown.at? (h : v.Grown w) (chain : List Segment) : Kept (v.at? chain) (w.at? chain) := by
  induction chain generalizing v w with
  | nil => exact .kept h
  | cons s rest ih =>
    have hchild := h.child? s
    rw [Value.at?, Value.at?]
    generalize v.child? s = before at hchild ⊢
    generalize w.child? s = after at hchild ⊢
    cases hchild with
    | kept grown => exact ih grown
    | new blank => exact kept_none_iff.mpr fun u hu => blank.at? hu
    | none => exact .none

/-! ## Failed writes -/

theorem isBlank_of_placeholder_grown (h : (placeholder rest).Grown w) : w.IsBlank := by
  cases rest with
  | nil => exact grown_null_iff.mp h
  | cons s rest =>
    cases s with
    | key key =>
      obtain ⟨es, rfl, entries⟩ := grown_map_iff.mp h
      cases entries with
      | new blank => exact isBlank_map_iff.mpr blank
    | index i =>
      obtain ⟨items, rfl, elements⟩ := grown_list_iff.mp h
      cases elements with
      | new blank => exact isBlank_list_iff.mpr blank

theorem kept_of_room {found : Option Value} (h : (room rest found).Grown c) :
    Kept found (some c) := by
  cases found with
  | none => exact .new (isBlank_of_placeholder_grown h)
  | some v =>
    by_cases hv : v = null
    · subst hv
      exact .kept (.filled (isBlank_of_placeholder_grown h))
    · rw [room_of_ne_null hv] at h
      exact .kept h

theorem itemsGrown_set {i : Nat} (h : Kept items[i]? (some c)) :
    ItemsGrown items ((items ++ List.replicate (i + 1 - items.length) null).set i c) := by
  induction items generalizing i with
  | nil =>
    cases h with
    | new blank =>
      refine .new fun v hv => ?_
      rcases List.mem_or_eq_of_mem_set hv with hv | rfl
      · rw [List.nil_append] at hv
        exact List.eq_of_mem_replicate hv ▸ isBlank_null
      · exact blank
  | cons v rest ih =>
    rw [List.length_cons, Nat.add_sub_add_right, List.cons_append]
    cases i with
    | zero =>
      cases h with
      | kept grown =>
        rw [List.set_cons_zero, Nat.zero_sub, List.replicate_zero, List.append_nil]
        exact .keep grown (.of_forall fun w _ => .refl w)
    | succ i =>
      rw [List.set_cons_succ]
      exact .keep (.refl v) (ih h)

theorem entriesGrown_put {key : String} (h : Kept (Entries.get? key es) (some c)) :
    EntriesGrown es (Entries.put key c es) := by
  induction es with
  | nil =>
    cases h with
    | new blank =>
      refine .new fun k v hv => ?_
      cases List.mem_singleton.mp hv
      exact blank
  | cons e rest ih =>
    obtain ⟨k, v⟩ := e
    rw [Entries.get?] at h
    rw [Entries.put]
    split at h
    · next hk =>
      rw [if_pos hk]
      cases h with
      | kept grown => exact .keep grown (.of_forall fun _ w _ => .refl w)
    · next hk =>
      rw [if_neg hk]
      exact .keep (.refl v) (ih h)

theorem grown_setChild (htakes : v.takes s = true) (h : Kept (v.child? s) (some c)) :
    v.Grown (setChild c (v.padded s) s) := by
  rcases exists_of_takes htakes with ⟨es, key, rfl, rfl⟩ | ⟨items, i, rfl, rfl⟩
  · exact .map (entriesGrown_put h)
  · exact .list (itemsGrown_set h)

/-- A failed write loses nothing. -/
theorem grown_of_write (h : write limit new chain v = (w, some fault)) : v.Grown w := by
  induction chain generalizing v w with
  | nil => cases h
  | cons s rest ih =>
    cases htakes : v.takes s with
    | false =>
      rw [write_cons_of_not_takes htakes] at h
      cases h
      exact .refl v
    | true =>
      cases hroom : v.hasRoom limit s with
      | false =>
        rw [write_cons_of_not_hasRoom hroom] at h
        cases h
        exact .refl v
      | true =>
        rw [write_cons htakes hroom] at h
        obtain ⟨rfl, hfault⟩ := Prod.mk.inj h
        exact grown_setChild htakes (kept_of_room (ih (Prod.ext rfl hfault)))

end Value

/-! ## Failing to set a value at a path -/

namespace Path

open Value

variable {limit : Nat} {doc doc' u v : Value} {path other : String} {error : PathError}

/-- The error of a write names the whole path. -/
theorem write_of_setWithin_eq_error (h : setWithin limit doc path v = (doc', some error)) :
    error = .notAContainer path ∧
        write limit v (segments path) doc = (doc', some .notAContainer) ∨
      error = .indexTooLarge path ∧
        write limit v (segments path) doc = (doc', some .indexTooLarge) := by
  rw [setWithin] at h
  generalize write limit v (segments path) doc = written at h ⊢
  obtain ⟨w, fault⟩ := written
  cases fault with
  | none => cases h
  | some fault =>
    cases fault with
    | notAContainer =>
      cases h
      exact .inl ⟨rfl, rfl⟩
    | indexTooLarge =>
      cases h
      exact .inr ⟨rfl, rfl⟩

/-- What a path reads is still there when the document has grown. -/
theorem exists_get_of_grown (h : doc.Grown doc') (hu : get doc other = .ok u) :
    ∃ u', get doc' other = .ok u' ∧ u.Grown u' := by
  have hkept := h.at? (segments other)
  simp only [get_eq_ok_iff] at hu ⊢
  rw [hu] at hkept
  generalize doc'.at? (segments other) = found at hkept ⊢
  cases hkept with
  | kept grown => exact ⟨_, rfl, grown⟩

/-- What a path reads in a document that has grown was there before, or it is new and blank. -/
theorem get_of_grown (h : doc.Grown doc') (hu : get doc' other = .ok u) :
    (∃ old, get doc other = .ok old ∧ old.Grown u) ∨ contains doc other = false ∧ u.IsBlank := by
  have hkept := h.at? (segments other)
  simp only [get_eq_ok_iff, contains_eq_false_iff] at hu ⊢
  rw [hu] at hkept
  generalize doc.at? (segments other) = found at hkept ⊢
  cases hkept with
  | kept grown => exact .inl ⟨_, rfl, grown⟩
  | new blank => exact .inr ⟨rfl, blank⟩

/-- Setting a value that fails loses nothing, whatever the limit on the length of lists. It fails
for want of a container exactly if a beginning of the path leads to a value that cannot take the
next segment, and then the document is as it was. If a list would become too long, all scalars,
lists and mappings are still there with all their elements and entries in order, and a path that
led nowhere or to a null reads something blank. -/
theorem setWithin_failure (limit : Nat) (doc : Value) (path : String) (v : Value)
    (doc' : Value) (error : PathError) (h : setWithin limit doc path v = (doc', some error)) :
    (error = .notAContainer path ∨ error = .indexTooLarge path) ∧
    (error = .notAContainer path ↔
      ∃ parent s rest u, segments path = parent ++ s :: rest ∧ doc.at? parent = some u ∧
        u.takes s = false ∧ (parent ≠ [] → u ≠ .null)) ∧
    (error = .notAContainer path → doc' = doc) ∧
    (error = .indexTooLarge path →
      doc.Grown doc' ∧
      (∀ other u, get doc other = .ok u → u.isContainer = false → u ≠ .null →
        get doc' other = .ok u) ∧
      (∀ other items, get doc other = .ok (.list items) →
        ∃ items', get doc' other = .ok (.list items') ∧ ItemsGrown items items') ∧
      (∀ other es, get doc other = .ok (.map es) →
        ∃ es', get doc' other = .ok (.map es') ∧ EntriesGrown es es') ∧
      ∀ other u, get doc' other = .ok u →
        contains doc other = false ∨ get doc other = .ok .null → u.IsBlank) := by
  rcases write_of_setWithin_eq_error h with ⟨rfl, hwrite⟩ | ⟨rfl, hwrite⟩
  · have hblocked : Blocked (segments path) doc :=
      snd_write_eq_notAContainer_iff.mp (congrArg Prod.snd hwrite)
    refine ⟨.inl rfl, iff_of_true rfl hblocked, fun _ => ?_, fun herror => by cases herror⟩
    exact congrArg Prod.fst (hwrite.symm.trans (write_of_blocked hblocked))
  · have hgrown : doc.Grown doc' := grown_of_write hwrite
    have hblocked : ¬ Blocked (segments path) doc := by
      intro hblocked
      cases hwrite.symm.trans (write_of_blocked hblocked)
    have hne : PathError.indexTooLarge path ≠ .notAContainer path := by rintro ⟨⟩
    refine ⟨.inr rfl, iff_of_false hne hblocked, fun herror => absurd herror hne,
      fun _ => ⟨hgrown, ?_, ?_, ?_, ?_⟩⟩
    · intro other u hu hscalar hu_ne
      obtain ⟨u', hu', grown⟩ := exists_get_of_grown hgrown hu
      exact grown.eq_of_scalar hscalar hu_ne ▸ hu'
    · intro other items hitems
      obtain ⟨u', hu', grown⟩ := exists_get_of_grown hgrown hitems
      obtain ⟨items', rfl, elements⟩ := grown_list_iff.mp grown
      exact ⟨items', hu', elements⟩
    · intro other es hes
      obtain ⟨u', hu', grown⟩ := exists_get_of_grown hgrown hes
      obtain ⟨es', rfl, entries⟩ := grown_map_iff.mp grown
      exact ⟨es', hu', entries⟩
    · intro other u hu hbefore
      rcases get_of_grown hgrown hu with ⟨old, hold, grown⟩ | ⟨-, blank⟩
      · rcases hbefore with hnone | hnull
        · rw [get_eq_ok_iff, contains_eq_false_iff.mp hnone] at hold
          cases hold
        · cases hold.symm.trans hnull
          exact grown_null_iff.mp grown
      · exact blank

/-- A null has become a list by the time the list below it cannot be made long enough. -/
theorem setWithin_failure_matrix :
    ∃ doc', setWithin 4 (.map [("a", .list [.int 1, .null])]) "a.1.2.9" (.int 7) =
        (doc', some (.indexTooLarge "a.1.2.9")) ∧
      get doc' "a.0" = .ok (.int 1) ∧ ∀ u, get doc' "a.1.2" = .ok u → u.IsBlank := by
  have hset : setWithin 4 (.map [("a", .list [.int 1, .null])]) "a.1.2.9" (.int 7) =
      (.map [("a", .list [.int 1, .list [.null, .null, .list []]])],
        some (.indexTooLarge "a.1.2.9")) := rfl
  obtain ⟨-, -, -, hlost⟩ := setWithin_failure _ _ _ _ _ _ hset
  obtain ⟨-, hscalars, -, -, hnew⟩ := hlost rfl
  exact ⟨_, hset, hscalars "a.0" (.int 1) rfl rfl (by rintro ⟨⟩),
    fun u hu => hnew "a.1.2" u hu (.inl rfl)⟩

end Path

end TypedDocument
