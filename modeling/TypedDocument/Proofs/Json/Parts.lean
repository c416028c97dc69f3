import TypedDocument.Json.Basic
import TypedDocument.Proofs.Entries

/-!
# The parts of JSON values

Induction over JSON values goes from the elements of an array and the members of an object to the
whole. What holds of a JSON value if something holds of each of its parts can be tested part by
part.
-/

namespace TypedDocument.Json

/-- Whether a JSON value holds further values. -/
def isContainer : Json → Bool
  | array _ => true
  | object _ => true
  | _ => false

theorem sizeOf_lt_array {j : Json} {items : List Json} (h : j ∈ items) :
    sizeOf j < sizeOf (array items) := by
  have hmem := List.sizeOf_lt_of_mem h
  simp only [array.sizeOf_spec]
  omega

theorem sizeOf_lt_object {key : String} {j : Json} {ms : List (String × Json)}
    (h : (key, j) ∈ ms) : sizeOf j < sizeOf (object ms) := by
  have hmem := List.sizeOf_lt_of_mem h
  simp only [Prod.mk.sizeOf_spec] at hmem
  simp only [object.sizeOf_spec]
  omega

/-- The induction principle of JSON values. -/
@[elab_as_elim]
theorem containerInduction {motive : Json → Prop}
    (leaf : ∀ j : Json, j.isContainer = false → motive j)
    (array : ∀ items : List Json, (∀ j ∈ items, motive j) → motive (array items))
    (object : ∀ ms : List (String × Json), (∀ key j, (key, j) ∈ ms → motive j) →
      motive (object ms)) (j : Json) : motive j := by
  match j with
  | .array items => exact array items fun i _ => containerInduction leaf array object i
  | .object ms => exact object ms fun key i _ => containerInduction leaf array object i
  | .null | .bool _ | .integer _ | .float _ | .string _ => exact leaf _ rfl
termination_by sizeOf j
decreasing_by
  · exact sizeOf_lt_array ‹_›
  · exact sizeOf_lt_object ‹_›

/-! ## Tests of all parts -/

mutual

/-- Whether a JSON value and all its parts pass a test. -/
def all (p : Json → Bool) : Json → Bool
  | array items => p (array items) && allItems p items
  | object members => p (object members) && allMembers p members
  | j => p j
termination_by structural j => j

def allItems (p : Json → Bool) : List Json → Bool
  | [] => true
  | j :: rest => all p j && allItems p rest
termination_by structural items => items

def allMembers (p : Json → Bool) : List (String × Json) → Bool
  | [] => true
  | (_, j) :: rest => all p j && allMembers p rest
termination_by structural members => members

end

variable {p : Json → Bool} {items : List Json} {ms : List (String × Json)}

theorem all_leaf {j : Json} (h : j.isContainer = false) : j.all p = p j := by
  cases j with
  | array => cases h
  | object => cases h
  | _ => rfl

@[simp] theorem allItems_iff : allItems p items = true ↔ ∀ j ∈ items, j.all p = true := by
  induction items with
  | nil => simp [allItems]
  | cons j rest ih => rw [allItems, Bool.and_eq_true, ih, List.forall_mem_cons]

@[simp] theorem allMembers_iff :
    allMembers p ms = true ↔ ∀ key j, (key, j) ∈ ms → j.all p = true := by
  induction ms with
  | nil => simp [allMembers]
  | cons m rest ih => rw [allMembers, Bool.and_eq_true, ih, Entries.forall_mem_cons_iff]

@[simp] theorem all_array_iff :
    (array items).all p = true ↔ p (array items) = true ∧ ∀ j ∈ items, j.all p = true := by
  rw [all, Bool.and_eq_true, allItems_iff]

@[simp] theorem all_object_iff :
    (object ms).all p = true ↔
      p (object ms) = true ∧ ∀ key j, (key, j) ∈ ms → j.all p = true := by
  rw [all, Bool.and_eq_true, allMembers_iff]

end TypedDocument.Json
