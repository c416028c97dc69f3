import TypedDocument.Proofs.Document.JsonForm
import TypedDocument.Proofs.Number.Nearest

/-!
# Documents and JSON values as encodings of the same data

JSON values and documents do not have the same numbers. On the way through a document a JSON value
keeps everything but the integers beyond 64 signed bits, which become the floats nearest to them. On
the way through JSON a document keeps everything but the widths of its integers. It has to consist
of what JSON has, and if it does not, the first part that is none of it is reported.
-/

namespace TypedDocument

/-! ## Integers beyond a document -/

namespace Json

mutual

/-- The integers of a JSON value at any depth. -/
def integers : Json → List Int
  | integer i => [i]
  | array items => integersOfItems items
  | object members => integersOfMembers members
  | _ => []
termination_by structural j => j

def integersOfItems : List Json → List Int
  | [] => []
  | j :: rest => integers j ++ integersOfItems rest
termination_by structural items => items

def integersOfMembers : List (String × Json) → List Int
  | [] => []
  | (_, j) :: rest => integers j ++ integersOfMembers rest
termination_by structural members => members

end

mutual

/-- A JSON value with floats for the integers that do not fit 64 signed bits. -/
def rounded : Json → Json
  | integer i => if fitsInt64 i then integer i else float (Float.ofInt i)
  | array items => array (roundedItems items)
  | object members => object (roundedMembers members)
  | j => j
termination_by structural j => j

def roundedItems : List Json → List Json
  | [] => []
  | j :: rest => rounded j :: roundedItems rest
termination_by structural items => items

def roundedMembers : List (String × Json) → List (String × Json)
  | [] => []
  | (key, j) :: rest => (key, rounded j) :: roundedMembers rest
termination_by structural members => members

end

end Json

namespace Json

variable {j : Json} {items : List Json} {members : List (String × Json)} {i : Int}

@[simp] theorem mem_integersOfItems_iff :
    i ∈ integersOfItems items ↔ ∃ j ∈ items, i ∈ j.integers := by
  induction items with
  | nil => simp [integersOfItems]
  | cons j rest ih => simp [integersOfItems, ih]

@[simp] theorem mem_integersOfMembers_iff :
    i ∈ integersOfMembers members ↔ ∃ key j, (key, j) ∈ members ∧ i ∈ j.integers := by
  induction members with
  | nil => simp [integersOfMembers]
  | cons m rest ih =>
    obtain ⟨k, j⟩ := m
    rw [integersOfMembers, List.mem_append, ih]
    simp only [List.mem_cons, Prod.mk.injEq]
    grind

theorem roundedItems_eq_self (h : ∀ j ∈ items, j.rounded = j) : roundedItems items = items := by
  induction items with
  | nil => rfl
  | cons j rest ih =>
    obtain ⟨hj, hrest⟩ := List.forall_mem_cons.mp h
    rw [roundedItems, hj, ih hrest]

theorem roundedMembers_eq_self (h : ∀ key j, (key, j) ∈ members → j.rounded = j) :
    roundedMembers members = members := by
  induction members with
  | nil => rfl
  | cons m rest ih =>
    obtain ⟨key, j⟩ := m
    rw [roundedMembers, h key j List.mem_cons_self,
      ih fun k l hl => h k l (List.mem_cons_of_mem _ hl)]

/-- Without integers beyond 64 signed bits there is nothing to round. -/
theorem rounded_eq_self (h : j.InRange) (hfits : ∀ i ∈ j.integers, fitsInt64 i = true) :
    j.rounded = j := by
  induction h with
  | @integer i => rw [rounded, if_pos (hfits i (by simp [integers]))]
  | array _ ih =>
    rw [rounded, roundedItems_eq_self]
    intro j hj
    exact ih j hj fun i hi => hfits i (mem_integersOfItems_iff.mpr ⟨j, hj, hi⟩)
  | object _ ih =>
    rw [rounded, roundedMembers_eq_self]
    intro key j hj
    exact ih key j hj fun i hi => hfits i (mem_integersOfMembers_iff.mpr ⟨key, j, hj, hi⟩)
  | _ => rfl

/-- An integer beyond 64 signed bits that a JSON number can hold has one bit more. Its float is
the one nearest to it. -/
theorem isNearest_of_not_fitsInt64 (h : (integer i).InRange) (hlarge : fitsInt64 i = false) :
    (ExactNumber.ofInt i).IsNearest (Float.ofInt i) := by
  cases h with
  | integer low high =>
    simp only [fitsInt64, Bool.and_eq_false_iff, decide_eq_false_iff_not] at hlarge
    obtain ⟨n, rfl⟩ := Int.eq_ofNat_of_zero_le (show 0 ≤ i by omega)
    exact isNearest_ofInt (by omega) (by omega)

end Json

namespace Value

theorem toJson_ofInteger {i : Int} (h : (Json.integer i).InRange) :
    (ofInteger i).toJson = .ok (Json.integer i).rounded := by
  rw [Json.rounded, ofInteger]
  split
  · next hshort =>
    rw [toJson, toInt_ofInt_of_fitsInt32 hshort, if_pos (fitsInt64_of_fitsInt32 hshort)]
  · split
    · next hlong => rw [toJson, toInt_ofInt_of_fitsInt64 hlong]
    · next hlarge =>
      have hnearest := Json.isNearest_of_not_fitsInt64 h (Bool.eq_false_iff.mpr hlarge)
      rw [toJson, if_pos hnearest.finite]

theorem toJsonItems_ofJsonItems {items : List Json}
    (h : ∀ j ∈ items, (ofJson j).toJson = .ok j.rounded) :
    toJsonItems (ofJsonItems items) = .ok (Json.roundedItems items) := by
  induction items with
  | nil => rfl
  | cons j rest ih =>
    obtain ⟨hj, hrest⟩ := List.forall_mem_cons.mp h
    exact toJsonItems_cons_eq_ok_iff.mpr ⟨_, hj, _, ih hrest, rfl⟩

theorem toJsonMembers_ofJsonMembers {members : List (String × Json)}
    (h : ∀ key j, (key, j) ∈ members → (ofJson j).toJson = .ok j.rounded) :
    toJsonMembers (ofJsonMembers members) = .ok (Json.roundedMembers members) := by
  induction members with
  | nil => rfl
  | cons m rest ih =>
    obtain ⟨key, j⟩ := m
    have hrest := ih fun k l hl => h k l (List.mem_cons_of_mem _ hl)
    exact toJsonMembers_cons_eq_ok_iff.mpr ⟨_, h key j List.mem_cons_self, _, hrest, rfl⟩

/-- A JSON value comes back from its raw document, up to its integers beyond 64 signed bits. -/
theorem toJson_ofJson {j : Json} (h : j.InRange) : (ofJson j).toJson = .ok j.rounded := by
  induction h with
  | integer low high => exact toJson_ofInteger (.integer low high)
  | float finite => exact if_pos finite
  | array _ ih => exact toJson_list_eq_ok_iff.mpr ⟨_, toJsonItems_ofJsonItems ih, rfl⟩
  | object _ ih => exact toJson_map_eq_ok_iff.mpr ⟨_, toJsonMembers_ofJsonMembers ih, rfl⟩
  | _ => rfl

end Value

/-! ## Parts without a JSON form -/

namespace Value

mutual

/-- The parts of a value that hold no further ones, in the order of the document. -/
def leaves : Value → List Value
  | list items => leavesOfItems items
  | map es => leavesOfEntries es
  | v => [v]
termination_by structural v => v

def leavesOfItems : List Value → List Value
  | [] => []
  | v :: rest => leaves v ++ leavesOfItems rest
termination_by structural items => items

def leavesOfEntries : List (String × Value) → List Value
  | [] => []
  | (_, v) :: rest => leaves v ++ leavesOfEntries rest
termination_by structural entries => entries

end

/-- The fault of a part that JSON has nothing for: a day, a time, a field or a float that is not
finite. -/
def jsonFault? : Value → Option JsonFault
  | dateTime _ => some (.notJson .dateTime)
  | date _ => some (.notJson .date)
  | time _ => some (.notJson .time)
  | field _ => some (.notJson .field)
  | float x => if x.isFinite then none else some (.notFinite x)
  | _ => none

theorem leaves_leaf {v : Value} (hv : v.isContainer = false) : v.leaves = [v] := by
  cases v with
  | list => cases hv
  | map => cases hv
  | _ => rfl

theorem errorOf_toJsonItems {items : List Value}
    (h : ∀ v ∈ items, errorOf v.toJson = v.leaves.findSome? jsonFault?) :
    errorOf (toJsonItems items) = (leavesOfItems items).findSome? jsonFault? := by
  induction items with
  | nil => rfl
  | cons v rest ih =>
    obtain ⟨hv, hrest⟩ := List.forall_mem_cons.mp h
    rw [toJsonItems, leavesOfItems, List.findSome?_append, ← hv, ← ih hrest]
    exact errorOf_bind fun _ => errorOf_map

theorem errorOf_toJsonMembers {es : Mapping}
    (h : ∀ key v, (key, v) ∈ es → errorOf v.toJson = v.leaves.findSome? jsonFault?) :
    errorOf (toJsonMembers es) = (leavesOfEntries es).findSome? jsonFault? := by
  induction es with
  | nil => rfl
  | cons e rest ih =>
    obtain ⟨key, v⟩ := e
    have hrest := ih fun k w hw => h k w (List.mem_cons_of_mem _ hw)
    rw [toJsonMembers, leavesOfEntries, List.findSome?_append, ← h key v List.mem_cons_self,
      ← hrest]
    exact errorOf_bind fun _ => errorOf_map

/-- The fault of a value is that of the first of its leaves that have one. -/
theorem errorOf_toJson (v : Value) : errorOf v.toJson = v.leaves.findSome? jsonFault? := by
  induction v using containerInduction with
  | leaf v hv =>
    rw [leaves_leaf hv]
    cases v with
    | list => cases hv
    | map => cases hv
    | float x => cases hx : x.isFinite <;> simp [toJson, jsonFault?, hx, errorOf]
    | _ => rfl
  | list items ih =>
    rw [toJson, errorOf_map, errorOf_toJsonItems ih, leaves]
  | map es ih =>
    rw [toJson, errorOf_map, errorOf_toJsonMembers ih, leaves]

/-- A value has a JSON form if none of its leaves has a fault. -/
theorem toJson_ok_iff_leaves {v : Value} :
    (∃ j, v.toJson = .ok j) ↔ ∀ w ∈ v.leaves, w.jsonFault? = none := by
  rw [← errorOf_eq_none_iff, errorOf_toJson, List.findSome?_eq_none_iff]

theorem toJson_error_iff {v : Value} {e : JsonFault} :
    v.toJson = .error e ↔
      ∃ before w after, v.leaves = before ++ w :: after ∧ w.jsonFault? = some e ∧
        ∀ u ∈ before, u.jsonFault? = none := by
  rw [← errorOf_eq_some_iff, errorOf_toJson]
  exact List.findSome?_eq_some_iff

/-! ## The correspondence -/

/-- JSON values and documents are encodings of the same data. A JSON value comes back from its
document as it was if its integers fit 64 signed bits. In place of an integer beyond them comes the
float nearest to it. A value has a JSON form unless one of its leaves is a day, a time, a field or a
float that is not finite, and then the first one of these is reported. From its JSON form it comes
back with its integers in the smallest type they fit. -/
theorem json_correspondence :
    (∀ j : Json, j.InRange → (∀ i ∈ j.integers, fitsInt64 i = true) →
      (ofJson j).toJson = .ok j) ∧
    (∀ j : Json, j.InRange → (ofJson j).toJson = .ok j.rounded) ∧
    (∀ i : Int, (Json.integer i).InRange → fitsInt64 i = false →
      ∃ x, (Json.integer i).rounded = .float x ∧ (ExactNumber.ofInt i).IsNearest x) ∧
    (∀ v : Value, (∃ j, v.toJson = .ok j) ↔ ∀ w ∈ v.leaves, w.jsonFault? = none) ∧
    (∀ (v : Value) (e : JsonFault), v.toJson = .error e ↔
      ∃ before w after, v.leaves = before ++ w :: after ∧ w.jsonFault? = some e ∧
        ∀ u ∈ before, u.jsonFault? = none) ∧
    ∀ (v : Value) (j : Json), v.toJson = .ok j → ofJson j = v.narrowed := by
  refine ⟨?_, fun _ => toJson_ofJson, ?_, fun _ => toJson_ok_iff_leaves,
    fun _ _ => toJson_error_iff, fun _ => ofJson_of_toJson⟩
  · intro j hj hfits
    rw [toJson_ofJson hj, Json.rounded_eq_self hj hfits]
  · intro i hi hlarge
    refine ⟨Float.ofInt i, ?_, Json.isNearest_of_not_fitsInt64 hi hlarge⟩
    rw [Json.rounded, hlarge]
    rfl

/-- The greatest integers of 64 bits, with and without a sign, next to each other in a list, a field
within a list, and a long integer that is short. -/
theorem json_correspondence_nested :
    (ofJson (.object [("z", .array [.integer 0x7FFFFFFFFFFFFFFF, .null]), ("a", .null)])).toJson =
        .ok (.object [("z", .array [.integer 0x7FFFFFFFFFFFFFFF, .null]), ("a", .null)]) ∧
      (ofJson (.array [.integer 0x7FFFFFFFFFFFFFFF, .integer 0xFFFFFFFFFFFFFFFF])).toJson =
        .ok (.array [.integer 0x7FFFFFFFFFFFFFFF, .float (Float.ofInt 0xFFFFFFFFFFFFFFFF)]) ∧
      (∃ x, (Json.integer 0xFFFFFFFFFFFFFFFF).rounded = .float x ∧
        (ExactNumber.ofInt 0xFFFFFFFFFFFFFFFF).IsNearest x) ∧
      (map [("b", list [null, field default]), ("a", float (0.0 / 0.0))]).toJson =
        .error (.notJson .field) ∧
      ofJson (.object [("a", .array [.integer (-7)])]) = map [("a", list [int (-7)])] := by
  obtain ⟨hstable, hrounded, hnearest, -, herror, hback⟩ := json_correspondence
  refine ⟨hstable _ (by decide) (by decide), hrounded (.array [_, _]) (by decide),
    hnearest _ (by decide) (by decide), ?_, ?_⟩
  · exact (herror _ _).mpr
      ⟨[null], field default, [float (0.0 / 0.0)], rfl, rfl, by simp [jsonFault?]⟩
  · exact hback (map [("a", list [long (-7)])]) _ rfl

end Value

end TypedDocument
