import TypedDocument.Proofs.Document.JsonForm

/-!
# Raw documents

A raw document is what a JSON value stands for: it goes through JSON and comes back as it was. Not
every JSON value goes through a document in the same way, since an integer beyond 64 signed bits
comes back as a float. The ones that do are called stable.
-/

namespace TypedDocument

/-- A value that comes back from JSON as it was. -/
def Value.IsRaw (v : Value) : Prop := ∃ j, v.toJson = .ok j ∧ Value.ofJson j = v

/-- A JSON value that comes back from its raw document as it was. -/
def Json.Stable (j : Json) : Prop := (Value.ofJson j).toJson = .ok j

namespace Value

/-! ## Raw values -/

theorem narrowedItems_eq_self_iff {items : List Value} :
    narrowedItems items = items ↔ ∀ v ∈ items, v.narrowed = v := by
  induction items with
  | nil => simp [narrowedItems]
  | cons v rest ih => simp [narrowedItems, ih]

theorem narrowedEntries_eq_self_iff {es : Mapping} :
    narrowedEntries es = es ↔ ∀ key v, (key, v) ∈ es → v.narrowed = v := by
  induction es with
  | nil => simp [narrowedEntries]
  | cons e rest ih =>
    obtain ⟨k, v⟩ := e
    simp only [narrowedEntries, List.cons.injEq, Prod.mk.injEq, true_and, ih, List.mem_cons]
    constructor
    · rintro ⟨hv, hrest⟩ key w (⟨rfl, rfl⟩ | hw)
      · exact hv
      · exact hrest key w hw
    · intro h
      exact ⟨h k v (.inl ⟨rfl, rfl⟩), fun key w hw => h key w (.inr hw)⟩

/-- A value is raw if JSON has all its types and its integers are in the smallest type they fit. -/
theorem isRaw_iff {v : Value} : v.IsRaw ↔ v.Everywhere HasJsonType ∧ v.narrowed = v := by
  constructor
  · rintro ⟨j, hj, hv⟩
    exact ⟨toJson_ok_iff.mp ⟨j, hj⟩, (ofJson_of_toJson j hj).symm.trans hv⟩
  · rintro ⟨htypes, hnarrowed⟩
    obtain ⟨j, hj⟩ := toJson_ok_iff.mpr htypes
    exact ⟨j, hj, (ofJson_of_toJson j hj).trans hnarrowed⟩

theorem IsRaw.item {items : List Value} (h : (list items).IsRaw) : ∀ v ∈ items, v.IsRaw := by
  intro v hv
  obtain ⟨htypes, hnarrowed⟩ := isRaw_iff.mp h
  rw [narrowed, list.injEq] at hnarrowed
  exact isRaw_iff.mpr ⟨(everywhere_list_iff.mp htypes).2 v hv,
    narrowedItems_eq_self_iff.mp hnarrowed v hv⟩

theorem IsRaw.entry {es : Mapping} (h : (map es).IsRaw) :
    ∀ key v, (key, v) ∈ es → v.IsRaw := by
  intro key v hv
  obtain ⟨htypes, hnarrowed⟩ := isRaw_iff.mp h
  rw [narrowed, map.injEq] at hnarrowed
  exact isRaw_iff.mpr ⟨(everywhere_map_iff.mp htypes).2 key v hv,
    narrowedEntries_eq_self_iff.mp hnarrowed key v hv⟩

theorem isRaw_empty : (list []).IsRaw := ⟨.array [], rfl, rfl⟩

@[simp] theorem narrowed_ofInteger (i : Int) : (ofInteger i).narrowed = ofInteger i := by
  rw [ofInteger]
  split
  · rfl
  · next hshort =>
    split
    · next hlong => rw [narrowed, toInt_ofInt_of_fitsInt64 hlong, if_neg hshort]
    · rfl

theorem narrowed_ofJson {j : Json} (h : j.InRange) : (ofJson j).narrowed = ofJson j := by
  induction h with
  | integer => exact narrowed_ofInteger _
  | array _ ih =>
    rw [ofJson, narrowed, narrowedItems_eq_self_iff.mpr]
    intro v hv
    obtain ⟨i, hi, rfl⟩ := mem_ofJsonItems v hv
    exact ih i hi
  | object _ ih =>
    rw [ofJson, narrowed, narrowedEntries_eq_self_iff.mpr]
    intro key v hv
    obtain ⟨i, hi, rfl⟩ := mem_ofJsonMembers key v hv
    exact ih key i hi
  | _ => rfl

/-- What stands for a JSON value whose numbers can be held is raw. -/
theorem isRaw_ofJson {j : Json} (h : j.InRange) : (ofJson j).IsRaw :=
  isRaw_iff.mpr ⟨everywhere_hasJsonType_ofJson h, narrowed_ofJson h⟩

end Value

namespace Json

/-! ## Stable JSON values -/

open Value (ofJson ofJsonItems ofJsonMembers toJson toJsonItems toJsonMembers)

variable {i : Int} {x : Float} {items : List Json} {members : List (String × Json)}

@[simp] theorem stable_integer_iff : (integer i).Stable ↔ fitsInt64 i = true := by
  rw [Stable, ofJson, Value.ofInteger]
  split
  · next hshort =>
    have hlong := fitsInt64_of_fitsInt32 hshort
    simp [toJson, toInt_ofInt_of_fitsInt32 hshort, hlong]
  · split
    · next hlong => simp [toJson, toInt_ofInt_of_fitsInt64 hlong, hlong]
    · next hlong =>
      rw [toJson]
      split <;> simp [hlong]

@[simp] theorem stable_float_iff : (float x).Stable ↔ x.isFinite = true := by
  rw [Stable, ofJson, toJson]
  cases x.isFinite <;> simp

@[simp] theorem stable_array_iff : (array items).Stable ↔ ∀ i ∈ items, i.Stable := by
  have hitems : toJsonItems (ofJsonItems items) = .ok items ↔ ∀ i ∈ items, i.Stable := by
    induction items with
    | nil => simp [ofJsonItems, toJsonItems]
    | cons i rest ih =>
      rw [ofJsonItems, Value.toJsonItems_cons_eq_ok_iff, List.forall_mem_cons, ← ih, Stable]
      simp
  rw [← hitems, Stable, ofJson, Value.toJson_list_eq_ok_iff]
  simp

@[simp] theorem stable_object_iff :
    (object members).Stable ↔ ∀ key i, (key, i) ∈ members → i.Stable := by
  have hmembers : toJsonMembers (ofJsonMembers members) = .ok members ↔
      ∀ key i, (key, i) ∈ members → i.Stable := by
    induction members with
    | nil => simp [ofJsonMembers, toJsonMembers]
    | cons m rest ih =>
      obtain ⟨k, i⟩ := m
      rw [ofJsonMembers, Value.toJsonMembers_cons_eq_ok_iff]
      simp only [List.cons.injEq, Prod.mk.injEq, true_and, exists_eq_right_right, ih,
        List.mem_cons]
      constructor
      · rintro ⟨hi, hrest⟩ key l (⟨rfl, rfl⟩ | hl)
        · exact hi
        · exact hrest key l hl
      · intro h
        exact ⟨h k i (.inl ⟨rfl, rfl⟩), fun key l hl => h key l (.inr hl)⟩
  rw [← hmembers, Stable, ofJson, Value.toJson_map_eq_ok_iff]
  simp

/-- The JSON form of a value is stable. -/
theorem stable_of_toJson {v : Value} : ∀ j, v.toJson = .ok j → j.Stable := by
  induction v using Value.containerInduction with
  | leaf v hv =>
    intro j h
    cases v with
    | int i =>
      cases h
      rw [← Int32.toInt_toInt64]
      exact stable_integer_iff.mpr (fitsInt64_toInt _)
    | long i =>
      cases h
      exact stable_integer_iff.mpr (fitsInt64_toInt i)
    | float x =>
      simp only [toJson] at h
      split at h
      · next hx =>
        cases h
        exact stable_float_iff.mpr hx
      · cases h
    | list => cases hv
    | map => cases hv
    | null | bool | text =>
      cases h
      rfl
    | dateTime | date | time | field => cases h
  | list items ih =>
    intro j h
    obtain ⟨js, hjs, rfl⟩ := Value.toJson_list_eq_ok_iff.mp h
    apply stable_array_iff.mpr
    intro i hi
    obtain ⟨v, hv, hvi⟩ := Value.mem_toJsonItems hjs i hi
    exact ih v hv i hvi
  | map es ih =>
    intro j h
    obtain ⟨ms, hms, rfl⟩ := Value.toJson_map_eq_ok_iff.mp h
    apply stable_object_iff.mpr
    intro key i hi
    obtain ⟨v, hv, hvi⟩ := Value.mem_toJsonMembers hms key i hi
    exact ih key v hv i hvi

end Json

end TypedDocument
