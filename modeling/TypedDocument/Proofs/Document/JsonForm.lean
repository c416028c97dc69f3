import TypedDocument.Proofs.Document.Json
import TypedDocument.Proofs.Json.Parts
import TypedDocument.Proofs.Number.Finite

/-!
# Which values have a JSON form

A value has a JSON form if none of its parts is a day, a time, a field or a float that is not
finite. JSON values that a program can hold keep their integers within 64 bits, so the raw
document of such a value has a JSON form again.
-/

namespace TypedDocument

/-- JSON values whose numbers can be held: integers of 64 bits, signed or not, and finite floats. -/
inductive Json.InRange : Json → Prop where
  | null : InRange .null
  | bool (b : Bool) : InRange (.bool b)
  | integer {i : Int} (low : -0x8000000000000000 ≤ i) (high : i < 0x10000000000000000) :
    InRange (.integer i)
  | float {x : Float} (finite : x.isFinite = true) : InRange (.float x)
  | string (s : String) : InRange (.string s)
  | array {items : List Json} (inRange : ∀ j ∈ items, InRange j) : InRange (.array items)
  | object {members : List (String × Json)} (inRange : ∀ key j, (key, j) ∈ members → InRange j) :
    InRange (.object members)

namespace Json

/-- Whether a number can be held. -/
def fits : Json → Bool
  | integer i => decide (-0x8000000000000000 ≤ i) && decide (i < 0x10000000000000000)
  | float x => x.isFinite
  | _ => true

theorem all_fits_iff {j : Json} : j.all fits = true ↔ j.InRange := by
  induction j using containerInduction with
  | leaf j hj =>
    rw [all_leaf hj]
    cases j with
    | null => exact iff_of_true rfl .null
    | bool b => exact iff_of_true rfl (.bool b)
    | string s => exact iff_of_true rfl (.string s)
    | integer i =>
      rw [fits, Bool.and_eq_true, decide_eq_true_eq, decide_eq_true_eq]
      constructor
      · exact fun ⟨low, high⟩ => .integer low high
      · rintro (_ | _ | ⟨low, high⟩)
        exact ⟨low, high⟩
    | float x =>
      rw [fits]
      constructor
      · exact .float
      · rintro (_ | _ | _ | finite)
        exact finite
    | array => cases hj
    | object => cases hj
  | array items ih =>
    rw [all_array_iff, forall₂_congr ih]
    constructor
    · exact fun h => .array h.2
    · intro h
      cases h with
      | array inRange => exact ⟨rfl, inRange⟩
  | object ms ih =>
    rw [all_object_iff, forall₃_congr ih]
    constructor
    · exact fun h => .object h.2
    · intro h
      cases h with
      | object inRange => exact ⟨rfl, inRange⟩

instance {j : Json} : Decidable j.InRange := decidable_of_iff _ all_fits_iff

end Json

namespace Value

/-- What a value itself needs for a JSON form, apart from its parts. -/
def HasJsonType : Value → Prop
  | float x => x.isFinite = true
  | dateTime _ | date _ | time _ | field _ => False
  | _ => True

variable {v : Value}

theorem toJsonItems_ok_iff {items : List Value} :
    (∃ js, toJsonItems items = .ok js) ↔ ∀ v ∈ items, ∃ j, v.toJson = .ok j := by
  induction items with
  | nil => simp [toJsonItems]
  | cons v rest ih =>
    simp only [toJsonItems_cons_eq_ok_iff, List.forall_mem_cons, ← ih]
    constructor
    · rintro ⟨_, j, hj, js, hjs, rfl⟩
      exact ⟨⟨j, hj⟩, js, hjs⟩
    · rintro ⟨⟨j, hj⟩, js, hjs⟩
      exact ⟨_, j, hj, js, hjs, rfl⟩

theorem toJsonMembers_ok_iff {es : Mapping} :
    (∃ ms, toJsonMembers es = .ok ms) ↔ ∀ key v, (key, v) ∈ es → ∃ j, v.toJson = .ok j := by
  rw [toJsonMembers_eq_traverse]
  exact Entries.traverse_ok_iff

/-- A value has a JSON form exactly if all its parts are of types JSON has. -/
theorem toJson_ok_iff : (∃ j, v.toJson = .ok j) ↔ v.Everywhere HasJsonType := by
  induction v using containerInduction with
  | leaf v hv =>
    rw [everywhere_leaf_iff hv]
    cases v with
    | list => cases hv
    | map => cases hv
    | float x => cases hx : x.isFinite <;> simp [toJson, HasJsonType, hx]
    | _ => simp [toJson, HasJsonType]
  | list items ih =>
    rw [everywhere_list_iff]
    simp only [HasJsonType, true_and]
    rw [← forall₂_congr ih, ← toJsonItems_ok_iff]
    constructor
    · rintro ⟨j, hj⟩
      obtain ⟨js, hjs, rfl⟩ := toJson_list_eq_ok_iff.mp hj
      exact ⟨js, hjs⟩
    · rintro ⟨js, hjs⟩
      exact ⟨.array js, toJson_list_eq_ok_iff.mpr ⟨js, hjs, rfl⟩⟩
  | map es ih =>
    rw [everywhere_map_iff]
    simp only [HasJsonType, true_and]
    rw [← forall₃_congr ih, ← toJsonMembers_ok_iff]
    constructor
    · rintro ⟨j, hj⟩
      obtain ⟨ms, hms, rfl⟩ := toJson_map_eq_ok_iff.mp hj
      exact ⟨ms, hms⟩
    · rintro ⟨ms, hms⟩
      exact ⟨.object ms, toJson_map_eq_ok_iff.mpr ⟨ms, hms, rfl⟩⟩

/-! ## JSON values of values, and values of JSON values -/

theorem mem_toJsonItems {items : List Value} {js : List Json} (h : toJsonItems items = .ok js) :
    ∀ j ∈ js, ∃ v ∈ items, v.toJson = .ok j := by
  induction items generalizing js with
  | nil =>
    cases h
    simp
  | cons v rest ih =>
    obtain ⟨j, hj, js', hjs', rfl⟩ := toJsonItems_cons_eq_ok_iff.mp h
    intro i hi
    rcases List.mem_cons.mp hi with rfl | hi
    · exact ⟨v, List.mem_cons_self, hj⟩
    · obtain ⟨w, hw, hwi⟩ := ih hjs' i hi
      exact ⟨w, List.mem_cons_of_mem v hw, hwi⟩

theorem mem_toJsonMembers {es : Mapping} {ms : List (String × Json)}
    (h : toJsonMembers es = .ok ms) :
    ∀ key j, (key, j) ∈ ms → ∃ v, (key, v) ∈ es ∧ v.toJson = .ok j :=
  Entries.mem_traverse (toJsonMembers_eq_traverse es ▸ h)

theorem length_toJsonItems {items : List Value} {js : List Json}
    (h : toJsonItems items = .ok js) : js.length = items.length := by
  induction items generalizing js with
  | nil =>
    cases h
    rfl
  | cons v rest ih =>
    obtain ⟨j, -, js', hjs', rfl⟩ := toJsonItems_cons_eq_ok_iff.mp h
    rw [List.length_cons, List.length_cons, ih hjs']

theorem keys_toJsonMembers {es : Mapping} {ms : List (String × Json)}
    (h : toJsonMembers es = .ok ms) : Entries.keys ms = Entries.keys es :=
  Entries.keys_traverse (toJsonMembers_eq_traverse es ▸ h)

theorem inRange_toInt64 (i : Int64) : (Json.integer i.toInt).InRange := by
  have hfits := fitsInt64_toInt i
  simp only [fitsInt64, Bool.and_eq_true, decide_eq_true_eq] at hfits
  exact .integer (by omega) (by omega)

theorem inRange_of_toJson {v : Value} : ∀ j, v.toJson = .ok j → j.InRange := by
  induction v using containerInduction with
  | leaf v hv =>
    intro j h
    cases v with
    | null =>
      cases h
      exact .null
    | bool b =>
      cases h
      exact .bool b
    | int i =>
      cases h
      rw [← Int32.toInt_toInt64]
      exact inRange_toInt64 _
    | long i =>
      cases h
      exact inRange_toInt64 i
    | float x =>
      simp only [toJson] at h
      split at h
      · next hx =>
        cases h
        exact .float hx
      · cases h
    | text s =>
      cases h
      exact .string s
    | list => cases hv
    | map => cases hv
    | dateTime | date | time | field => cases h
  | list items ih =>
    intro j h
    obtain ⟨js, hjs, rfl⟩ := toJson_list_eq_ok_iff.mp h
    apply Json.InRange.array
    intro i hi
    obtain ⟨v, hv, hvi⟩ := mem_toJsonItems hjs i hi
    exact ih v hv i hvi
  | map es ih =>
    intro j h
    obtain ⟨ms, hms, rfl⟩ := toJson_map_eq_ok_iff.mp h
    apply Json.InRange.object
    intro key i hi
    obtain ⟨v, hv, hvi⟩ := mem_toJsonMembers hms key i hi
    exact ih key v hv i hvi

theorem mem_ofJsonItems {js : List Json} : ∀ v ∈ ofJsonItems js, ∃ j ∈ js, v = ofJson j := by
  induction js with
  | nil => simp [ofJsonItems]
  | cons j rest ih =>
    intro v hv
    rw [ofJsonItems] at hv
    rcases List.mem_cons.mp hv with rfl | hv
    · exact ⟨j, List.mem_cons_self, rfl⟩
    · obtain ⟨i, hi, rfl⟩ := ih v hv
      exact ⟨i, List.mem_cons_of_mem j hi, rfl⟩

theorem mem_ofJsonMembers {ms : List (String × Json)} :
    ∀ key v, (key, v) ∈ ofJsonMembers ms → ∃ j, (key, j) ∈ ms ∧ v = ofJson j := by
  induction ms with
  | nil => simp [ofJsonMembers]
  | cons m rest ih =>
    obtain ⟨k, j⟩ := m
    intro key v hv
    rw [ofJsonMembers] at hv
    rcases List.mem_cons.mp hv with hv | hv
    · cases hv
      exact ⟨j, List.mem_cons_self, rfl⟩
    · obtain ⟨i, hi, rfl⟩ := ih key v hv
      exact ⟨i, List.mem_cons_of_mem _ hi, rfl⟩

theorem everywhere_hasJsonType_ofInteger {i : Int} (low : -0x8000000000000000 ≤ i)
    (high : i < 0x10000000000000000) : (ofInteger i).Everywhere HasJsonType := by
  rw [ofInteger]
  split
  · exact (everywhere_leaf_iff rfl).mpr trivial
  · split
    · exact (everywhere_leaf_iff rfl).mpr trivial
    · next hfits =>
      refine (everywhere_leaf_iff rfl).mpr ?_
      simp only [fitsInt64, Bool.and_eq_true, decide_eq_true_eq] at hfits
      obtain ⟨n, rfl⟩ := Int.eq_ofNat_of_zero_le (show 0 ≤ i by omega)
      exact isFinite_ofInt (by omega) (by omega)

/-- The raw document of a JSON value whose numbers can be held has a JSON form. -/
theorem everywhere_hasJsonType_ofJson {j : Json} (h : j.InRange) :
    (ofJson j).Everywhere HasJsonType := by
  induction h with
  | null => exact (everywhere_leaf_iff rfl).mpr trivial
  | bool => exact (everywhere_leaf_iff rfl).mpr trivial
  | string => exact (everywhere_leaf_iff rfl).mpr trivial
  | integer low high => exact everywhere_hasJsonType_ofInteger low high
  | float finite => exact (everywhere_leaf_iff rfl).mpr finite
  | array _ ih =>
    refine everywhere_list_iff.mpr ⟨trivial, ?_⟩
    intro v hv
    obtain ⟨j, hj, rfl⟩ := mem_ofJsonItems v hv
    exact ih j hj
  | object _ ih =>
    refine everywhere_map_iff.mpr ⟨trivial, ?_⟩
    intro key v hv
    obtain ⟨j, hj, rfl⟩ := mem_ofJsonMembers key v hv
    exact ih key j hj

end Value

end TypedDocument
