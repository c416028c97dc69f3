/-!
# Ordered entries

Mappings keep their entries in a list of pairs. A new key goes to the end, a key that is already there keeps its
place and takes the new value, and removing an entry leaves the order of the others alone.
-/

namespace TypedDocument

/-- The entries of a mapping in order, each key at most once. -/
abbrev Entries (κ α : Type) := List (κ × α)

namespace Entries

variable {κ α β : Type} [BEq κ]

/-- The value at a key. -/
def get? (key : κ) : Entries κ α → Option α
  | [] => none
  | (k, v) :: rest => if k == key then some v else get? key rest

def contains (key : κ) (es : Entries κ α) : Bool := (get? key es).isSome

/-- The keys in order. -/
def keys (es : Entries κ α) : List κ := es.map (·.1)

/-- Sets the value at a key, in place if the key is there and at the end otherwise. -/
def put (key : κ) (value : α) : Entries κ α → Entries κ α
  | [] => [(key, value)]
  | (k, v) :: rest => if k == key then (k, value) :: rest else (k, v) :: put key value rest

/-- Removes the entry at a key. -/
def erase (key : κ) : Entries κ α → Entries κ α
  | [] => []
  | (k, v) :: rest => if k == key then rest else (k, v) :: erase key rest

/-- The mapping built by setting pairs one after the other: a repeated key keeps its first place and its last
value. -/
def ofList (pairs : List (κ × α)) : Entries κ α :=
  pairs.foldl (fun es (k, v) => put k v es) []

/-- Whether no key occurs twice. -/
def Distinct (es : Entries κ α) : Prop := (keys es).Nodup

end Entries

end TypedDocument
