import TypedDocument.Path.Access

/-!
# Walking a document

A walk visits the entries of a document's mappings depth first, each entry before its own entries, and gives the path
of each. Lists are visited as single entries. A key with a dot cannot be part of a path, so the walk ends there with
an error. The walk is lazy: `Walk.next` takes one step, and what is still to be visited is a stack of frames.
`Mapping.preorder` is the same sequence in one piece.
-/

namespace TypedDocument

/-- The entries of one mapping that are still to be visited, below the path of that mapping. The root has no path. -/
structure WalkFrame where
  parent : Option String
  entries : Mapping

/-- What is still to be visited, innermost mapping first. -/
abbrev Walk := List WalkFrame

namespace WalkFrame

/-- The path of an entry. -/
def path (parent : Option String) (key : String) : String :=
  match parent with
  | some p => Path.join p key
  | none => key

end WalkFrame

mutual

/-- The number of entries in the mappings of a value. -/
def Value.entryCount : Value → Nat
  | .map es => Mapping.entryCount es
  | _ => 0
termination_by structural v => v

/-- The number of entries in a mapping and the mappings below it. -/
def Mapping.entryCount : List (String × Value) → Nat
  | [] => 0
  | (_, v) :: rest => 1 + Value.entryCount v + Mapping.entryCount rest
termination_by structural es => es

end

/-- An entry a walk has come by, or the error that ends it. -/
abbrev WalkItem := Except PathError (String × Value)

namespace Walk

/-- The walk of a document. Only mappings have entries. -/
def start : Value → Walk
  | .map es => [⟨none, es⟩]
  | _ => []

/-- The next entry and what comes after it. -/
def next : Walk → Option (WalkItem × Walk)
  | [] => none
  | ⟨_, []⟩ :: stack => next stack
  | ⟨parent, (key, v) :: rest⟩ :: stack =>
    if Path.isDotted key then some (.error (.dottedKey key), [])
    else
      let path := WalkFrame.path parent key
      let below := match v with
        | .map es => [⟨some path, es⟩]
        | _ => []
      some (.ok (path, v), below ++ ⟨parent, rest⟩ :: stack)

/-- The number of entries still to be visited. -/
def size : Walk → Nat
  | [] => 0
  | f :: stack => Mapping.entryCount f.entries + size stack

@[simp] theorem size_append (w w' : Walk) : size (w ++ w') = size w + size w' := by
  induction w with
  | nil => simp only [List.nil_append, size, Nat.zero_add]
  | cons f stack ih => simp only [List.cons_append, size, ih, Nat.add_assoc]

theorem size_next {w w' : Walk} {item : WalkItem} (h : w.next = some (item, w')) : w'.size < w.size := by
  fun_induction next w with
  | case1 => cases h
  | case2 parent stack ih => simpa only [size, Mapping.entryCount, Nat.zero_add] using ih h
  | case3 parent key v rest stack hd =>
    simp only [Option.some.injEq, Prod.mk.injEq] at h
    obtain ⟨_, rfl⟩ := h
    simp only [size, Mapping.entryCount]
    omega
  | case4 parent key v rest stack hd path below =>
    simp only [Option.some.injEq, Prod.mk.injEq] at h
    obtain ⟨_, rfl⟩ := h
    have hbelow : size below = Value.entryCount v := by
      cases v <;> simp only [below, size, Value.entryCount, Nat.add_zero]
    simp only [size_append, size, Mapping.entryCount, hbelow]
    omega

/-- All entries of a walk, up to the error that ends it. -/
def toList (w : Walk) : List WalkItem :=
  match _h : w.next with
  | none => []
  | some (item, w') => item :: toList w'
termination_by w.size
decreasing_by exact size_next _h

end Walk

mutual

/-- The walk of a mapping in one piece. The flag says whether the walk got to its end. -/
def Mapping.preorder (parent : Option String) : List (String × Value) → List WalkItem × Bool
  | [] => ([], true)
  | (key, v) :: rest =>
    if Path.isDotted key then ([.error (.dottedKey key)], false)
    else
      let path := WalkFrame.path parent key
      let (below, complete) := Value.preorder path v
      if complete then
        let (after, complete) := Mapping.preorder parent rest
        (.ok (path, v) :: below ++ after, complete)
      else (.ok (path, v) :: below, false)
termination_by structural es => es

/-- The walk below a value at a path. -/
def Value.preorder (path : String) : Value → List WalkItem × Bool
  | .map es => Mapping.preorder (some path) es
  | _ => ([], true)
termination_by structural v => v

end

namespace Path

/-- The entries of a document in the order of a walk. -/
def walk (doc : Value) : List WalkItem := (Walk.start doc).toList

end Path

end TypedDocument
