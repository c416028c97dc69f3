import TypedDocument.Path.Access
import TypedDocument.Proofs.Entries

/-!
# Writing at a path

A write goes along its segments one container at a time. A container that takes the segment is
made long enough for it, and the write goes on with the child there, or with an empty container
where there is none. From this one step follow the laws of writing and reading: what was written
is read back, a second write at the same path replaces the first, writing what is there already
changes nothing, and on other paths nothing changes but that nulls may appear.
-/

namespace TypedDocument

namespace Path

/-- Neither of two chains of segments goes on from the other. -/
def Apart (chain other : List Segment) : Prop := ¬ chain <+: other ∧ ¬ other <+: chain

instance {chain other : List Segment} : Decidable (Apart chain other) :=
  inferInstanceAs (Decidable (¬ chain <+: other ∧ ¬ other <+: chain))

@[simp] theorem apart_cons_cons_iff {s t : Segment} {rest more : List Segment} :
    Apart (s :: rest) (t :: more) ↔ (s = t → Apart rest more) := by
  simp only [Apart, List.cons_prefix_cons]
  constructor
  · rintro ⟨hst, hts⟩ rfl
    exact ⟨fun h => hst ⟨rfl, h⟩, fun h => hts ⟨rfl, h⟩⟩
  · intro h
    exact ⟨fun ⟨heq, hst⟩ => (h heq).1 hst, fun ⟨heq, hts⟩ => (h heq.symm).2 hts⟩

end Path

namespace Value

/-! ## One step -/

/-- Whether a segment can lead into a value: a key into a mapping and an index into a list. -/
def takes : Value → Segment → Bool
  | map _, .key _ => true
  | list _, .index _ => true
  | _, _ => false

/-- Whether the length a list needs for an index is within the limit. -/
def hasRoom (limit : Nat) : Value → Segment → Bool
  | list items, .index i => i < items.length || i < limit
  | _, _ => true

/-- A list made long enough for an index. Mappings are ready for any key. -/
def padded : Value → Segment → Value
  | list items, .index i => list (items ++ List.replicate (i + 1 - items.length) null)
  | v, _ => v

variable {limit : Nat} {new other old u v w c d : Value} {s t : Segment}
  {chain rest more : List Segment}

theorem exists_of_takes (h : v.takes s = true) :
    (∃ es key, v = map es ∧ s = .key key) ∨ ∃ items i, v = list items ∧ s = .index i := by
  cases v <;> cases s <;> simp_all [takes]

@[simp] theorem write_cons_of_not_takes (h : v.takes s = false) :
    write limit new (s :: rest) v = (v, some .notAContainer) := by
  cases s with
  | key key =>
    cases v with
    | map es => cases h
    | _ => rfl
  | index i =>
    cases v with
    | list items => cases h
    | _ => rfl

@[simp] theorem write_cons_of_not_hasRoom (h : v.hasRoom limit s = false) :
    write limit new (s :: rest) v = (v, some .indexTooLarge) := by
  cases v with
  | list items =>
    cases s with
    | key key => cases h
    | index i =>
      rw [hasRoom, Bool.or_eq_false_iff, decide_eq_false_iff_not, decide_eq_false_iff_not] at h
      rw [write, if_neg h.1, if_neg h.2]
  | _ => cases h

theorem set_padding (items : List Value) {i : Nat} (h : items.length ≤ i) (v : Value) :
    (items ++ List.replicate (i + 1 - items.length) null).set i v =
      items ++ List.replicate (i - items.length) null ++ [v] := by
  have hpadding : List.replicate (i + 1 - items.length) null =
      List.replicate (i - items.length) null ++ [null] := by
    rw [Nat.sub_add_comm h, List.replicate_succ']
  have hlength : (items ++ List.replicate (i - items.length) null).length = i := by
    rw [List.length_append, List.length_replicate, Nat.add_sub_of_le h]
  rw [hpadding, ← List.append_assoc, List.set_append_right _ _ (Nat.le_of_eq hlength), hlength,
    Nat.sub_self, List.set_cons_zero]

theorem write_cons (htakes : v.takes s = true) (hroom : v.hasRoom limit s = true) :
    write limit new (s :: rest) v =
      (setChild (write limit new rest (room rest (v.child? s))).1 (v.padded s) s,
        (write limit new rest (room rest (v.child? s))).2) := by
  rcases exists_of_takes htakes with ⟨es, key, rfl, rfl⟩ | ⟨items, i, rfl, rfl⟩
  · rfl
  · rw [hasRoom, Bool.or_eq_true, decide_eq_true_eq, decide_eq_true_eq] at hroom
    rw [write, child?, padded, setChild]
    by_cases hi : i < items.length
    · have hlength : i + 1 - items.length = 0 := by omega
      rw [if_pos hi, hlength, List.replicate_zero, List.append_nil]
    · rw [if_neg hi, if_pos (hroom.resolve_left hi), List.getElem?_eq_none (Nat.le_of_not_lt hi),
        set_padding items (Nat.le_of_not_lt hi)]
      rfl

/-- A write succeeds exactly if the container takes the first segment and has room for it, and the
write below it succeeds. -/
theorem write_cons_eq_iff :
    write limit new (s :: rest) v = (w, none) ↔
      v.takes s = true ∧ v.hasRoom limit s = true ∧
        ∃ c, write limit new rest (room rest (v.child? s)) = (c, none) ∧
          setChild c (v.padded s) s = w := by
  cases htakes : v.takes s with
  | false => simp [write_cons_of_not_takes htakes]
  | true =>
    cases hroom : v.hasRoom limit s with
    | false => simp [write_cons_of_not_hasRoom hroom]
    | true =>
      rw [write_cons htakes hroom]
      constructor
      · intro h
        obtain ⟨hw, hfault⟩ := Prod.mk.inj h
        exact ⟨rfl, rfl, _, Prod.ext rfl hfault, hw⟩
      · rintro ⟨-, -, c, hc, rfl⟩
        rw [hc]

/-! ## The children of a container that is written to -/

theorem takes_of_child? (h : v.child? s = some c) : v.takes s = true := by
  cases v <;> cases s <;> first | rfl | cases h

theorem hasRoom_of_child? (h : v.child? s = some c) : v.hasRoom limit s = true := by
  rcases exists_of_takes (takes_of_child? h) with ⟨es, key, rfl, rfl⟩ | ⟨items, i, rfl, rfl⟩
  · rfl
  · obtain ⟨hi, -⟩ := List.getElem?_eq_some_iff.mp h
    rw [hasRoom, decide_eq_true hi, Bool.true_or]

theorem padded_of_child? (h : v.child? s = some c) : v.padded s = v := by
  rcases exists_of_takes (takes_of_child? h) with ⟨es, key, rfl, rfl⟩ | ⟨items, i, rfl, rfl⟩
  · rfl
  · obtain ⟨hi, -⟩ := List.getElem?_eq_some_iff.mp h
    have hlength : i + 1 - items.length = 0 := by omega
    rw [padded, hlength, List.replicate_zero, List.append_nil]

theorem setChild_of_child? (h : v.child? s = some c) : setChild c v s = v := by
  rcases exists_of_takes (takes_of_child? h) with ⟨es, key, rfl, rfl⟩ | ⟨items, i, rfl, rfl⟩
  · exact congrArg map (Entries.put_of_get? h)
  · obtain ⟨hi, hc⟩ := List.getElem?_eq_some_iff.mp h
    rw [setChild, ← hc, List.set_getElem_self]

@[simp] theorem setChild_setChild : setChild d (setChild c v s) s = setChild d v s := by
  cases v <;> cases s <;> try rfl
  · exact congrArg list (List.set_set ..)
  · exact congrArg map Entries.put_put

/-- The new child is found where it was put. -/
theorem child?_setChild_padded (h : v.takes s = true) :
    (setChild c (v.padded s) s).child? s = some c := by
  rcases exists_of_takes h with ⟨es, key, rfl, rfl⟩ | ⟨items, i, rfl, rfl⟩
  · exact Entries.get?_put_self
  · have hi : i < (items ++ List.replicate (i + 1 - items.length) null).length := by
      rw [List.length_append, List.length_replicate]
      omega
    rw [padded, setChild, child?, List.getElem?_set_self hi]

@[simp] theorem child?_setChild_of_ne (h : t ≠ s) : (setChild c v s).child? t = v.child? t := by
  cases v with
  | list items =>
    cases s with
    | key key => rfl
    | index i =>
      cases t with
      | key key => rfl
      | index j =>
        refine List.getElem?_set_ne ?_
        rintro rfl
        exact h rfl
  | map es =>
    cases s with
    | index i => rfl
    | key key =>
      cases t with
      | index j => rfl
      | key key' =>
        rw [setChild, child?, child?, Entries.get?_put, if_neg]
        rw [beq_iff_eq]
        rintro rfl
        exact h rfl
  | _ => rfl

/-- Padding keeps all children and adds none but nulls. -/
theorem child?_padded (v : Value) (s t : Segment) :
    (v.padded s).child? t = v.child? t ∨
      v.child? t = none ∧ (v.padded s).child? t = some null := by
  cases v with
  | list items =>
    cases s with
    | key key => exact .inl rfl
    | index i =>
      cases t with
      | key key => exact .inl rfl
      | index j =>
        rw [padded, child?, child?, List.getElem?_append]
        split
        · exact .inl rfl
        · next hj =>
          rw [List.getElem?_eq_none (Nat.le_of_not_lt hj), List.getElem?_replicate]
          split
          · exact .inr ⟨rfl, rfl⟩
          · exact .inl rfl
  | _ => exact .inl rfl

/-! ## What a write goes on with -/

@[simp] theorem room_of_ne_null (h : c ≠ null) : room rest (some c) = c := by
  cases c with
  | null => exact absurd rfl h
  | _ => rfl

@[simp] theorem at?_null (h : chain ≠ []) : null.at? chain = none := by
  cases chain with
  | nil => exact absurd rfl h
  | cons => rfl

/-- What comes in the place of a missing value is empty. -/
theorem at?_placeholder (h : more ≠ []) : (placeholder rest).at? more = none := by
  cases more with
  | nil => exact absurd rfl h
  | cons t more =>
    have hchild : (placeholder rest).child? t = none := by
      cases rest with
      | nil => rfl
      | cons s rest => cases s <;> cases t <;> rfl
    rw [at?, hchild, Option.bind_none]

/-- Making room changes nothing that can be read below. -/
theorem at?_room (h : more ≠ []) (found : Option Value) :
    (room rest found).at? more = found.bind (·.at? more) := by
  cases found with
  | none => exact at?_placeholder h
  | some c =>
    by_cases hc : c = null
    · subst hc
      exact (at?_placeholder h).trans (at?_null h).symm
    · rw [room_of_ne_null hc, Option.bind_some]

/-- A write that goes on from what is there does not have to make room. -/
theorem write_room (h : rest ≠ [] → c ≠ null) :
    write limit new rest (room rest (some c)) = write limit new rest c := by
  cases rest with
  | nil => rfl
  | cons s rest => rw [room_of_ne_null (h (List.cons_ne_nil s rest))]

theorem ne_null_of_at? (h : v.at? chain = some u) (hchain : chain ≠ []) : v ≠ null := by
  rintro rfl
  rw [at?_null hchain] at h
  cases h

/-! ## Laws of one write -/

/-- What was written is read back. -/
theorem at?_of_write (h : write limit new chain v = (w, none)) : w.at? chain = some new := by
  induction chain generalizing v w with
  | nil =>
    cases h
    rfl
  | cons s rest ih =>
    obtain ⟨htakes, -, c, hc, rfl⟩ := write_cons_eq_iff.mp h
    rw [at?, child?_setChild_padded htakes, Option.bind_some]
    exact ih hc

/-- Whether a write succeeds does not depend on the value. -/
theorem exists_write (h : write limit new chain v = (w, none)) (other : Value) :
    ∃ w', write limit other chain v = (w', none) := by
  induction chain generalizing v w with
  | nil => exact ⟨other, rfl⟩
  | cons s rest ih =>
    obtain ⟨htakes, hroom, c, hc, -⟩ := write_cons_eq_iff.mp h
    obtain ⟨c', hc'⟩ := ih hc
    exact ⟨_, write_cons_eq_iff.mpr ⟨htakes, hroom, c', hc', rfl⟩⟩

/-- A second write at the same segments takes the place of the first one. -/
theorem write_of_write (h : write limit new chain v = (w, none)) :
    write limit other chain w = write limit other chain v := by
  induction chain generalizing v w with
  | nil => rfl
  | cons s rest ih =>
    obtain ⟨htakes, hroom, c, hc, rfl⟩ := write_cons_eq_iff.mp h
    have hchild : (setChild c (v.padded s) s).child? s = some c := child?_setChild_padded htakes
    have hc_ne : rest ≠ [] → c ≠ null := ne_null_of_at? (at?_of_write hc)
    rw [write_cons htakes hroom, write_cons (takes_of_child? hchild) (hasRoom_of_child? hchild),
      hchild, write_room hc_ne, ih hc, padded_of_child? hchild, setChild_setChild]

/-- Where there is a value already, a write succeeds and exchanges it. -/
theorem exists_write_of_at? (limit : Nat) (new : Value) (h : v.at? chain = some old) :
    ∃ w, write limit new chain v = (w, none) ∧ replace? new chain v = some (old, w) := by
  induction chain generalizing v with
  | nil =>
    cases h
    exact ⟨new, rfl, rfl⟩
  | cons s rest ih =>
    obtain ⟨c, hc, hbelow⟩ := Option.bind_eq_some_iff.mp h
    obtain ⟨c', hwrite, hreplace⟩ := ih hbelow
    refine ⟨setChild c' v s, write_cons_eq_iff.mpr ?_, ?_⟩
    · refine ⟨takes_of_child? hc, hasRoom_of_child? hc, c', ?_, ?_⟩
      · rw [hc, write_room (ne_null_of_at? hbelow), hwrite]
      · rw [padded_of_child? hc]
    · rw [replace?, hc, Option.bind_eq_bind, Option.bind_some, hreplace]
      rfl

/-- Writing what is there already changes nothing. -/
theorem write_self (limit : Nat) (h : v.at? chain = some new) :
    write limit new chain v = (v, none) := by
  induction chain generalizing v with
  | nil =>
    cases h
    rfl
  | cons s rest ih =>
    obtain ⟨c, hc, hbelow⟩ := Option.bind_eq_some_iff.mp h
    refine write_cons_eq_iff.mpr ⟨takes_of_child? hc, hasRoom_of_child? hc, c, ?_, ?_⟩
    · rw [hc, write_room (ne_null_of_at? hbelow), ih hbelow]
    · rw [padded_of_child? hc, setChild_of_child? hc]

/-! ## Other places -/

/-- A write changes nothing in other places, except that it may put a null where there was
nothing. -/
theorem at?_of_write_of_apart {other : List Segment} (h : write limit new chain v = (w, none))
    (hapart : Path.Apart chain other) :
    w.at? other = v.at? other ∨ v.at? other = none ∧ w.at? other = some null := by
  induction chain generalizing v w other with
  | nil => exact absurd List.nil_prefix hapart.1
  | cons s rest ih =>
    cases other with
    | nil => exact absurd List.nil_prefix hapart.2
    | cons t more =>
      obtain ⟨htakes, -, c, hc, rfl⟩ := write_cons_eq_iff.mp h
      rw [at?, at?]
      by_cases hst : t = s
      · subst hst
        have hbelow := Path.apart_cons_cons_iff.mp hapart rfl
        have hmore : more ≠ [] := fun hmore => hbelow.2 (hmore ▸ List.nil_prefix)
        rw [child?_setChild_padded htakes, Option.bind_some, ← at?_room hmore]
        exact ih hc hbelow
      · rw [child?_setChild_of_ne hst]
        rcases child?_padded v s t with hsame | ⟨hnone, hnull⟩
        · exact .inl (by rw [hsame])
        · rw [hnone, hnull, Option.bind_none, Option.bind_some]
          cases more with
          | nil => exact .inr ⟨rfl, rfl⟩
          | cons => exact .inl rfl

end Value

/-! ## Reading and setting at a path -/

namespace Path

variable {limit : Nat} {doc doc' v : Value} {path : String}

@[simp] theorem get_eq_ok_iff : get doc path = .ok v ↔ doc.at? (segments path) = some v := by
  rw [get]
  cases doc.at? (segments path) <;> simp

@[simp] theorem contains_eq_false_iff :
    contains doc path = false ↔ doc.at? (segments path) = none := by
  rw [contains, Option.isSome_eq_false_iff, Option.isNone_iff_eq_none]

theorem setWithin_eq_iff :
    setWithin limit doc path v = (doc', none) ↔
      Value.write limit v (segments path) doc = (doc', none) := by
  simp [setWithin, Prod.ext_iff]

/-- Setting and reading at a path obey the laws of a lens, whatever the limit on the length of
lists. What is set is read back, setting twice is setting once, and setting what is there changes
nothing. All other paths read what they read before, and those that did not lead anywhere may now
lead to a null. Where there is a value, setting succeeds and does the same as exchanging it. For
`set` the limit is `maxLength`. -/
theorem setWithin_lens (limit : Nat) (doc : Value) (path : String) (v : Value) :
    (∀ doc', setWithin limit doc path v = (doc', none) →
      get doc' path = .ok v ∧
      (∀ w, ∃ doc'', setWithin limit doc path w = (doc'', none) ∧
        setWithin limit doc' path w = (doc'', none)) ∧
      (get doc path = .ok v → doc' = doc) ∧
      ∀ other, Apart (segments path) (segments other) →
        (∀ u, get doc other = .ok u → get doc' other = .ok u) ∧
        ∀ u, contains doc other = false → get doc' other = .ok u → u = .null) ∧
    ∀ old, get doc path = .ok old →
      ∃ doc', setWithin limit doc path v = (doc', none) ∧ replace doc path v = .ok (old, doc') := by
  refine ⟨?_, ?_⟩
  · intro doc' h
    have hwrite := setWithin_eq_iff.mp h
    refine ⟨get_eq_ok_iff.mpr (Value.at?_of_write hwrite), ?_, ?_, ?_⟩
    · intro w
      obtain ⟨doc'', hw⟩ := Value.exists_write hwrite w
      have hagain := (Value.write_of_write hwrite).trans hw
      exact ⟨doc'', setWithin_eq_iff.mpr hw, setWithin_eq_iff.mpr hagain⟩
    · intro hget
      cases hwrite.symm.trans (Value.write_self limit (get_eq_ok_iff.mp hget))
      rfl
    · intro other hapart
      simp only [get_eq_ok_iff, contains_eq_false_iff]
      rcases Value.at?_of_write_of_apart hwrite hapart with hsame | ⟨hnone, hnull⟩
      · rw [hsame]
        refine ⟨fun u hu => hu, fun u hnone hu => ?_⟩
        rw [hnone] at hu
        cases hu
      · rw [hnone, hnull]
        refine ⟨fun u hu => ?_, fun u _ hu => (Option.some.inj hu).symm⟩
        cases hu
  · intro old hget
    obtain ⟨doc', hwrite, hreplace⟩ := Value.exists_write_of_at? limit v (get_eq_ok_iff.mp hget)
    refine ⟨doc', setWithin_eq_iff.mpr hwrite, ?_⟩
    rw [replace, hreplace]

/-- A list grows by two nulls and a mapping, and stays as it is in front of them. -/
theorem setWithin_lens_padding :
    ∃ doc', setWithin 4 (.map [("a", .list [.int 1])]) "a.3.b" (.int 7) = (doc', none) ∧
      get doc' "a.3.b" = .ok (.int 7) ∧ get doc' "a.00" = .ok (.int 1) ∧
      ∀ u, get doc' "a.2" = .ok u → u = .null := by
  have hset : setWithin 4 (.map [("a", .list [.int 1])]) "a.3.b" (.int 7) =
      (.map [("a", .list [.int 1, .null, .null, .map [("b", .int 7)]])], none) := rfl
  obtain ⟨hlaws, -⟩ := setWithin_lens 4 (.map [("a", .list [.int 1])]) "a.3.b" (.int 7)
  obtain ⟨hget, -, -, hother⟩ := hlaws _ hset
  have hfirst : Apart (segments "a.3.b") (segments "a.00") := by decide
  have hpadding : Apart (segments "a.3.b") (segments "a.2") := by decide
  exact ⟨_, hset, hget, (hother "a.00" hfirst).1 _ rfl,
    fun u hu => (hother "a.2" hpadding).2 u rfl hu⟩

end Path

end TypedDocument
