import TypedDocument.Json.Basic

/-!
# Weights of JSON values

The weight of a value is the number of its nodes. Every member of an object and every element of an array weighs less
than the whole, which is what recursion over looked-up members rests on.
-/

namespace TypedDocument.Json

mutual

/-- The number of nodes of a value. -/
def weight : Json → Nat
  | array items => 1 + weightItems items
  | object members => 1 + weightMembers members
  | _ => 1

def weightItems : List Json → Nat
  | [] => 0
  | j :: rest => weight j + weightItems rest

def weightMembers : List (String × Json) → Nat
  | [] => 0
  | (_, j) :: rest => weight j + weightMembers rest

end

theorem weight_pos (j : Json) : 0 < j.weight := by
  cases j <;> simp only [weight] <;> omega

theorem weight_le_of_get? {key : String} {members : List (String × Json)} {j : Json}
    (h : Entries.get? key members = some j) : j.weight ≤ weightMembers members := by
  induction members with
  | nil => simp [Entries.get?] at h
  | cons m rest ih =>
    obtain ⟨k, v⟩ := m
    simp only [Entries.get?] at h
    simp only [weightMembers]
    split at h
    · cases h
      omega
    · have := ih h
      omega

end TypedDocument.Json
