import TypedDocument.Proofs.Declaration.Reading

/-!
# Where a declaration stands

Readers of declarations are told at which node they read. This shows in their errors and nowhere
else: at a node they give what they give at the root, with the error, if there is one, moved below
the node.
-/

namespace TypedDocument

namespace DeclarationError

variable {node p q : Pointer} {e : DeclarationError}

/-- An error seen from a larger declaration, in which the declaration it is about stands at a
node. -/
def beneath (node : Pointer) : DeclarationError → DeclarationError
  | notAnObject p actual => notAnObject (node ++ p) actual
  | unknownType p name => unknownType (node ++ p) name
  | invalidOption p option message => invalidOption (node ++ p) option message
  | invalidPattern p tooLarge => invalidPattern (node ++ p) tooLarge
  | invalidDefault p source => invalidDefault (node ++ p) source

@[simp] theorem pointer_beneath : (e.beneath node).pointer = node ++ e.pointer := by
  cases e <;> rfl

@[simp] theorem beneath_beneath : (e.beneath q).beneath p = e.beneath (p ++ q) := by
  cases e <;> simp [beneath]

end DeclarationError

namespace Declaration

open DeclarationError (beneath)

variable {α β : Type} {node : Pointer} {read : Pointer → Except DeclarationError α}
  {typeName option message key : String} {j : Json} {f : Field} {members : List (String × Json)}
  {items : List Json} {n : Nat}

/-! ## Readers that can be moved -/

/-- A reader for which it shows in errors only where it reads. -/
def Relocates (read : Pointer → Except DeclarationError α) : Prop :=
  ∀ node, read node = (read []).mapError (beneath node)

namespace Relocates

theorem ok (a : α) : Relocates fun _ => .ok a := fun _ => rfl

/-- An error that names its node. -/
theorem error {e : Pointer → DeclarationError} (he : ∀ node, e node = (e []).beneath node) :
    Relocates (α := α) fun node => .error (e node) :=
  fun node => congrArg Except.error (he node)

theorem invalid : Relocates fun node => Declaration.invalid (α := α) node option message :=
  error fun node => by simp [beneath]

theorem unknownType {name : String} :
    Relocates (α := α) fun node => .error (.unknownType node name) :=
  error fun node => by simp [beneath]

theorem notAnObject {actual : String} :
    Relocates (α := α) fun node => .error (.notAnObject node actual) :=
  error fun node => by simp [beneath]

theorem bind {f : Pointer → α → Except DeclarationError β} (hread : Relocates read)
    (hf : ∀ a, Relocates fun node => f node a) : Relocates fun node => read node >>= f node := by
  intro node
  have hnode := hread node
  simp only [hnode]
  cases read [] with
  | error e => rfl
  | ok a => exact hf a node

theorem map (hread : Relocates read) (g : α → β) :
    Relocates fun node => (do return g (← read node)) :=
  hread.bind fun a => ok (g a)

/-- Reading at a child of the node. -/
theorem child (hread : Relocates read) (key : String) :
    Relocates fun node => read (node.child key) := by
  intro node
  show read (node ++ [key]) = (read ([] ++ [key])).mapError (beneath node)
  rw [hread, hread ([] ++ [key])]
  cases read [] with
  | error e => exact congrArg Except.error DeclarationError.beneath_beneath.symm
  | ok a => rfl

/-- What is read does not depend on where it stands. -/
theorem eq_ok_iff (hread : Relocates read) {a : α} : read node = .ok a ↔ read [] = .ok a := by
  rw [hread node]
  cases read [] with
  | error e =>
    show Except.error (e.beneath node) = Except.ok a ↔ Except.error e = Except.ok a
    simp
  | ok b => exact Iff.rfl

/-- An error below a node is one of the declaration that stands there. -/
theorem exists_of_eq_error (hread : Relocates read) {e : DeclarationError}
    (h : read node = .error e) : ∃ e', read [] = .error e' ∧ e'.beneath node = e := by
  rw [hread node] at h
  cases hroot : read [] with
  | error e' =>
    rw [hroot] at h
    cases h
    exact ⟨e', rfl, rfl⟩
  | ok a =>
    rw [hroot] at h
    cases h

end Relocates

/-! ## Options -/

theorem relocates_readFlag : Relocates fun node => readFlag node option j := by
  cases j with
  | bool b => exact .ok b
  | _ => exact .invalid

theorem relocates_readText : Relocates fun node => readText node option j := by
  cases j with
  | string s => exact .ok s
  | _ => exact .invalid

theorem relocates_readLength : Relocates fun node => readLength node option j := by
  cases j with
  | integer i =>
    cases i with
    | ofNat n => exact .ok n
    | negSucc n => exact .invalid
  | _ => exact .invalid

theorem relocates_readBound : Relocates fun node => readBound node option j := by
  cases j with
  | integer i => exact .ok _
  | float x => exact .ok _
  | _ => exact .invalid

theorem relocates_readPattern : Relocates fun node => readPattern node option j := by
  refine relocates_readText.bind fun source => ?_
  intro node
  cases Pattern.compile? source with
  | some p => rfl
  | none => rfl

theorem relocates_setOption : Relocates fun node => setOption node typeName option j f := by
  intro node
  unfold setOption
  split
  · rfl
  · -- Each option is read in its own way, and some of them by a few types only.
    split <;> first
      | exact relocates_readFlag.map _ node
      | exact relocates_readText.map _ node
      | exact Relocates.invalid node
      | split
        · first
            | exact relocates_readBound.map _ node
            | exact relocates_readLength.map _ node
            | exact relocates_readPattern.map _ node
        · exact Relocates.invalid node

theorem relocates_setOptions : Relocates fun node => setOptions node typeName members f := by
  induction members generalizing f with
  | nil => exact .ok f
  | cons m rest ih => exact relocates_setOption.bind fun g => ih

/-! ## Types and defaults -/

theorem relocates_readType : Relocates fun node => readType node members := by
  intro node
  dsimp only
  rw [readType, readType]
  cases Entries.get? "type" members with
  | none => exact Relocates.invalid node
  | some j =>
    cases j with
    | string name => rfl
    | _ => exact Relocates.invalid node

theorem relocates_readDefault (declare : DeclarationReader) :
    Relocates fun node => readDefault declare node members f := by
  intro node
  dsimp only
  rw [readDefault, readDefault]
  cases Entries.get? "default" members with
  | none => rfl
  | some default =>
    dsimp only
    cases Value.decodeWith declare (Value.ofJson default) f <;> rfl

/-! ## Declarations within a declaration -/

/-- Below a weight, it does not matter where a declaration is read. -/
def Movable (n : Nat) : Prop := ∀ j, j.weight < n → Relocates fun node => readFieldAt node j

theorem relocates_readItems (hn : Movable n) {k : Nat} (hweight : Json.weightItems items < n) :
    Relocates fun node => readItems node k items := by
  induction items generalizing k with
  | nil =>
    intro node
    dsimp only
    rw [readItems, readItems]
    rfl
  | cons j rest ih =>
    intro node
    rw [Json.weightItems] at hweight
    have hhead := (hn j (by omega)).child (toString k)
    have htail := ih (k := k + 1) (by omega)
    dsimp only
    rw [readItems, readItems]
    exact hhead.bind (fun f => htail.map (f :: ·)) node

theorem relocates_readList (hn : Movable n) (hweight : j.weight < n) :
    Relocates fun node => readList node (some j) := by
  by_cases hitems : ∃ items, j = .array items
  · obtain ⟨items, rfl⟩ := hitems
    rw [Json.weight] at hweight
    exact ((relocates_readItems hn (by omega)).child "fields").map _
  · intro node
    dsimp only
    rw [readList_single fun items h => hitems ⟨items, h⟩,
      readList_single fun items h => hitems ⟨items, h⟩]
    exact ((hn j hweight).child "fields").map (fun f => Field.list [f]) node

theorem relocates_readEntries
    (h : ∀ key j, (key, j) ∈ members → Relocates fun node => readEntry node j) :
    Relocates fun node => readEntries node members := by
  induction members with
  | nil =>
    intro node
    dsimp only
    rw [readEntries, readEntries]
    rfl
  | cons m rest ih =>
    obtain ⟨key, j⟩ := m
    intro node
    have hhead := (h key j List.mem_cons_self).child key
    have htail := ih fun k i hi => h k i (List.mem_cons_of_mem _ hi)
    dsimp only
    rw [readEntries, readEntries]
    exact hhead.bind (fun e => htail.map ((SchemaKey.ofText key, e) :: ·)) node

theorem relocates_readEntry_of_movable (hn : Movable n) :
    ∀ {j}, j.weight < n → Relocates fun node => readEntry node j := by
  intro j
  -- Entries nest by themselves; only where one declares a field does the assumption come in.
  induction hw : j.weight using Nat.strongRecOn generalizing j with
  | ind w ih =>
    intro hweight node
    cases j with
    | object members =>
      dsimp only
      rw [readEntry, readEntry]
      split
      · exact (hn _ (hw ▸ hweight)).map SchemaEntry.field node
      · refine (relocates_readEntries fun key i hi => ?_).map SchemaEntry.nested node
        have hle := Value.weight_le_of_mem_members hi
        rw [Json.weight] at hw
        exact ih i.weight (by omega) rfl (by omega)
    | _ =>
      dsimp only
      rw [readEntry_of_members?_eq_none rfl, readEntry_of_members?_eq_none rfl]
      exact Relocates.notAnObject node

theorem relocates_readNested (hn : Movable n) (hweight : j.weight < n) :
    Relocates fun node => readNested node (some j) := by
  refine ((relocates_readEntry_of_movable hn hweight).child "schema").bind fun entry => ?_
  cases entry with
  | field => exact Relocates.invalid.child "schema"
  | nested entries => exact .ok _

/-- A member that may be missing. -/
theorem relocates_get? (read : Pointer → Option Json → Except DeclarationError α)
    (hnone : Relocates fun node => read node none)
    (hsome : ∀ j, Entries.get? key members = some j → Relocates fun node => read node (some j)) :
    Relocates fun node => read node (Entries.get? key members) := by
  cases h : Entries.get? key members with
  | none => exact hnone
  | some j => exact hsome j h

theorem relocates_readBase (hn : Movable n) (hweight : Json.weightMembers members < n) :
    Relocates fun node => readBase node typeName members := by
  have hmember : ∀ {key j}, Entries.get? key members = some j → j.weight < n := by
    intro key j hj
    have := Json.weight_le_of_get? hj
    omega
  intro node
  dsimp only
  rw [readBase, readBase]
  split
  · exact relocates_get? readList (.ok _) (fun j hj => relocates_readList hn (hmember hj)) node
  · split
    · exact relocates_get? readNested (.ok _) (fun j hj => relocates_readNested hn (hmember hj))
        node
    · cases plainField? typeName with
      | some f => rfl
      | none => exact Relocates.unknownType node

theorem movable (n : Nat) : Movable n := by
  induction n with
  | zero =>
    intro j hweight
    omega
  | succ n hn =>
    intro j hweight node
    cases j with
    | object members =>
      rw [Json.weight] at hweight
      dsimp only
      rw [readFieldAt_eq, readFieldAt_eq]
      exact relocates_readType.bind (fun typeName =>
        (relocates_readBase hn (by omega)).bind fun base =>
          relocates_setOptions.bind fun f => relocates_readDefault readField) node
    | _ =>
      dsimp only
      rw [readFieldAt_of_members?_eq_none rfl, readFieldAt_of_members?_eq_none rfl]
      exact Relocates.notAnObject node

/-- Where the declaration of a field stands shows only in its errors. -/
theorem relocates_readFieldAt (j : Json) : Relocates fun node => readFieldAt node j :=
  movable _ j (Nat.lt_succ_self _)

/-- Where an entry of a schema stands shows only in its errors. -/
theorem relocates_readEntry (j : Json) : Relocates fun node => readEntry node j :=
  relocates_readEntry_of_movable (movable _) (Nat.lt_succ_self _)

end Declaration

end TypedDocument
