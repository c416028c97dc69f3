import TypedDocument.Proofs.Declaration.Recognition
import TypedDocument.Proofs.Declaration.Relocation
import TypedDocument.Proofs.Json.Pointer

/-!
# Where the fault of a declaration is

The pointer in the error about a declaration leads to a node of the declaration that shows the
fault. Some errors name the node itself and others a member of it. Each reader is looked at where it
reads from the root; the errors of the declarations within a declaration are those of reading them
on their own, moved to where they stand.
-/

namespace TypedDocument

open Declaration

/-! ## Nodes at fault -/

namespace DeclarationError

/-- What a node `i` of a declaration `j` shows if it is at fault: that it is no object; a type that
there is not; a pattern under `match` that does not compile; a default that the field declared with
it cannot decode; or an option, which is a member of the node or the type that it lacks. An option
`schema` may also stand for the node itself, if that is a field where a mapping needs entries. -/
def ShownBy (j i : Json) : DeclarationError → Prop
  | notAnObject _ actual => i.members? = none ∧ i.typeName = actual
  | unknownType _ name => i.member? "type" = some (.string name) ∧ name ∉ typeNames
  | invalidPattern p _ =>
    (∃ q : Pointer, p = q.child "match") ∧ ∃ s, i = .string s ∧ Pattern.compile? s = none
  | invalidDefault p source =>
    ∃ (q : Pointer) (members : List (String × Json)) (f : Field),
      p = q.child "default" ∧ q.resolve? j = some (.object members) ∧
        readField (.object (Entries.erase "default" members)) = .ok f ∧
        f.decode (Value.ofJson i) = .error source
  | invalidOption p option _ =>
    ∃ members, i = .object members ∧
      (option ∈ Entries.keys members ∨
        (option = "type" ∧ "type" ∉ Entries.keys members) ∨
        (option = "schema" ∧ (∃ f, readField i = .ok f) ∧
          ∃ (q : Pointer) (outer : List (String × Json)), p = q.child "schema" ∧
            q.resolve? j = some (.object outer) ∧
            Entries.get? "type" outer = some (.string "dict")))

/-- An error leads to a node of a declaration that shows the fault. -/
def LocatedIn (j : Json) (e : DeclarationError) : Prop :=
  ∃ i, e.pointer.resolve? j = some i ∧ e.ShownBy j i

variable {node : Pointer} {i j k : Json} {e : DeclarationError}

/-- What shows a fault in a part of a declaration shows it in the declaration. -/
theorem ShownBy.beneath (h : e.ShownBy i k) (hi : node.resolve? j = some i) :
    (e.beneath node).ShownBy j k := by
  have hdown : ∀ q : Pointer, Pointer.resolve? (node ++ q) j = q.resolve? i := by
    intro q
    rw [Pointer.resolve?_append, hi, Option.bind_some]
  cases e with
  | notAnObject p actual => exact h
  | unknownType p name => exact h
  | invalidPattern p tooLarge =>
    obtain ⟨⟨q, rfl⟩, hs⟩ := h
    exact ⟨⟨node ++ q, (List.append_assoc node q ["match"]).symm⟩, hs⟩
  | invalidDefault p source =>
    obtain ⟨q, members, f, rfl, hq, hf, hdecode⟩ := h
    exact ⟨node ++ q, members, f, (List.append_assoc node q ["default"]).symm,
      (hdown q).trans hq, hf, hdecode⟩
  | invalidOption p option message =>
    obtain ⟨members, hk, hoption | hoption | ⟨hoption, hfield, q, outer, rfl, hq, htype⟩⟩ := h
    · exact ⟨members, hk, .inl hoption⟩
    · exact ⟨members, hk, .inr (.inl hoption)⟩
    · exact ⟨members, hk, .inr (.inr ⟨hoption, hfield, node ++ q, outer,
        (List.append_assoc node q ["schema"]).symm, (hdown q).trans hq, htype⟩)⟩

theorem LocatedIn.beneath (h : e.LocatedIn i) (hi : node.resolve? j = some i) :
    (e.beneath node).LocatedIn j := by
  obtain ⟨k, hk, hshown⟩ := h
  refine ⟨k, ?_, hshown.beneath hi⟩
  rw [pointer_beneath, Pointer.resolve?_append, hi, Option.bind_some, hk]

end DeclarationError

namespace Declaration

open DeclarationError (LocatedIn)

variable {α β : Type} {i j : Json} {x : Except DeclarationError α} {node : Pointer}
  {read : Pointer → Except DeclarationError α} {typeName option message key : String}
  {f base : Field} {members ms : List (String × Json)} {items rest : List Json} {n : Nat}

/-- A reader that fails tells where in the declaration the fault is. -/
def Locates (j : Json) (x : Except DeclarationError α) : Prop := ∀ e, x = .error e → e.LocatedIn j

namespace Locates

theorem ok (a : α) : Locates j (.ok a) := by
  rintro e ⟨⟩

theorem error {e : DeclarationError} (h : e.LocatedIn j) : Locates (α := α) j (.error e) := by
  rintro _ ⟨⟩
  exact h

theorem bind {g : α → Except DeclarationError β} (hx : Locates j x)
    (hg : ∀ a, x = .ok a → Locates j (g a)) : Locates j (x >>= g) := by
  intro e he
  cases x with
  | error e' =>
    cases he
    exact hx e rfl
  | ok a => exact hg a rfl e he

theorem map (hx : Locates j x) (g : α → β) : Locates j (do return g (← x)) :=
  hx.bind fun a _ => ok (g a)

/-- What is read from a part of a declaration tells where in the declaration the fault is. -/
theorem of_relocates (hread : Relocates read) (h : Locates i (read []))
    (hi : node.resolve? j = some i) : Locates j (read node) := by
  intro e he
  obtain ⟨e', he', rfl⟩ := hread.exists_of_eq_error he
  exact (h e' he').beneath hi

theorem member (hread : Relocates read) (h : Locates i (read []))
    (hi : Entries.get? key members = some i) :
    Locates (.object members) (read (Pointer.child [] key)) :=
  of_relocates hread h (Pointer.resolve?_object.trans hi)

theorem item (hread : Relocates read) {k : Nat} (h : Locates i (read []))
    (hi : items[k]? = some i) :
    Locates (.array items) (read (Pointer.child [] (toString k))) :=
  of_relocates hread h ((Pointer.resolve?_array k).trans hi)

/-- A complaint about a member. -/
theorem invalid (h : option ∈ Entries.keys members) :
    Locates (α := α) (.object members) (Declaration.invalid [] option message) :=
  error ⟨.object members, rfl, members, rfl, .inl h⟩

end Locates

theorem mem_keys_of_get? (h : Entries.get? key members = some j) : key ∈ Entries.keys members :=
  List.mem_map_of_mem (Entries.mem_of_get?_eq_some h)

/-! ## Options -/

theorem locates_readFlag (h : option ∈ Entries.keys members) :
    Locates (.object members) (readFlag [] option j) := by
  cases j with
  | bool b => exact .ok b
  | _ => exact .invalid h

theorem locates_readText (h : option ∈ Entries.keys members) :
    Locates (.object members) (readText [] option j) := by
  cases j with
  | string s => exact .ok s
  | _ => exact .invalid h

theorem locates_readLength (h : option ∈ Entries.keys members) :
    Locates (.object members) (readLength [] option j) := by
  cases j with
  | integer i =>
    cases i with
    | ofNat n => exact .ok n
    | negSucc n => exact .invalid h
  | _ => exact .invalid h

theorem locates_readBound (h : option ∈ Entries.keys members) :
    Locates (.object members) (readBound [] option j) := by
  cases j with
  | integer i => exact .ok _
  | float x => exact .ok _
  | _ => exact .invalid h

theorem locates_readPattern (h : Entries.get? "match" members = some j) :
    Locates (.object members) (readPattern [] "match" j) := by
  refine (locates_readText (mem_keys_of_get? h)).bind fun source hsource => ?_
  have hstring : j = .string source := by
    rw [readText_eq_ok_iff] at hsource
    cases j <;> cases hsource
    rfl
  cases hcompile : Pattern.compile? source with
  | some p => exact .ok p
  | none =>
    exact .error ⟨j, Pointer.resolve?_object.trans h, ⟨[], rfl⟩, source, hstring, hcompile⟩

theorem locates_setOption (h : Entries.get? option members = some j) :
    Locates (.object members) (setOption [] typeName option j f) := by
  have hmem := mem_keys_of_get? h
  unfold setOption
  split
  · exact .ok f
  · split <;> first
      | exact (locates_readFlag hmem).map _
      | exact (locates_readText hmem).map _
      | exact Locates.invalid hmem
      | split
        · first
            | exact (locates_readBound hmem).map _
            | exact (locates_readLength hmem).map _
            | exact (locates_readPattern h).map _
        · exact Locates.invalid hmem

theorem locates_setOptions
    (h : ∀ option j, (option, j) ∈ ms → Entries.get? option members = some j) :
    Locates (.object members) (setOptions [] typeName ms f) := by
  induction ms generalizing f with
  | nil => exact .ok f
  | cons m rest ih =>
    obtain ⟨option, j⟩ := m
    exact (locates_setOption (h option j List.mem_cons_self)).bind fun g _ =>
      ih fun o i hi => h o i (List.mem_cons_of_mem _ hi)

/-! ## Types and defaults -/

theorem locates_readType : Locates (.object members) (readType [] members) := by
  rw [readType]
  cases h : Entries.get? "type" members with
  | none =>
    exact .error ⟨.object members, rfl, members, rfl,
      .inr (.inl ⟨rfl, Entries.get?_eq_none_iff.mp h⟩)⟩
  | some j =>
    cases j with
    | string name => exact .ok name
    | _ => exact .invalid (mem_keys_of_get? h)

theorem locates_readDefault
    (hf : readField (.object (Entries.erase "default" members)) = .ok f) :
    Locates (.object members) (readDefault readField [] members f) := by
  rw [readDefault]
  cases h : Entries.get? "default" members with
  | none => exact .ok f
  | some d =>
    cases hdecode : Value.decodeWith readField (Value.ofJson d) f with
    | ok v => simpa only [hdecode] using Locates.ok _
    | error source =>
      simp only [hdecode]
      exact .error ⟨d, Pointer.resolve?_object.trans h, [], members, f, rfl, rfl, hf, hdecode⟩

/-! ## Declarations within a declaration -/

/-- Below a weight, reading a declaration tells where the fault is. -/
def Traced (n : Nat) : Prop := ∀ j, j.weight < n → j.Proper → Locates j (readFieldAt [] j)

theorem locates_readItems (hn : Traced n) (hweight : Json.weightItems rest < n)
    (hproper : ∀ j ∈ rest, j.Proper) {k : Nat} (hrest : items.drop k = rest) :
    Locates (.array items) (readItems [] k rest) := by
  -- The index moves on with the candidates that are left, so it is that of the next one.
  induction rest generalizing k with
  | nil =>
    rw [readItems]
    exact .ok []
  | cons j rest ih =>
    rw [Json.weightItems] at hweight
    have hitem : items[k]? = some j := by
      rw [← Nat.add_zero k, ← List.getElem?_drop, hrest]
      rfl
    have htail : items.drop (k + 1) = rest := by
      rw [← List.drop_drop, hrest]
      rfl
    have hhead := hn j (by omega) (hproper j List.mem_cons_self)
    rw [readItems]
    exact (Locates.item (relocates_readFieldAt j) hhead hitem).bind fun f _ =>
      (ih (by omega) (fun i hi => hproper i (List.mem_cons_of_mem j hi)) htail).map _

theorem locates_readList (hn : Traced n) (hweight : j.weight < n) (hj : j.Proper)
    (hget : Entries.get? "fields" members = some j) :
    Locates (.object members) (readList [] (some j)) := by
  by_cases hitems : ∃ items, j = .array items
  · obtain ⟨items, rfl⟩ := hitems
    rw [Json.weight] at hweight
    have hread : Relocates fun node => readItems node 0 items :=
      relocates_readItems (movable n) (by omega)
    refine (Locates.member hread ?_ hget).map _
    exact locates_readItems hn (by omega) (fun _ => hj.item) rfl
  · rw [readList_single fun items h => hitems ⟨items, h⟩]
    exact (Locates.member (relocates_readFieldAt j) (hn j hweight hj) hget).map _

theorem locates_readEntries
    (h : ∀ key j, (key, j) ∈ ms → Entries.get? key members = some j ∧ Locates j (readEntry [] j)) :
    Locates (.object members) (readEntries [] ms) := by
  induction ms with
  | nil =>
    rw [readEntries]
    exact .ok []
  | cons m rest ih =>
    obtain ⟨key, j⟩ := m
    obtain ⟨hget, hj⟩ := h key j List.mem_cons_self
    rw [readEntries]
    exact (Locates.member (relocates_readEntry j) hj hget).bind fun e _ =>
      (ih fun k i hi => h k i (List.mem_cons_of_mem _ hi)).map _

theorem locates_readEntry_of_traced (hn : Traced n) :
    ∀ {j}, j.weight < n → j.Proper → Locates j (readEntry [] j) := by
  intro j
  induction hw : j.weight using Nat.strongRecOn generalizing j with
  | ind w ih =>
    intro hweight hj
    cases j with
    | object members =>
      rw [readEntry]
      split
      · exact (hn _ (hw ▸ hweight) hj).map _
      · -- Without a type the object is a mapping, and its members are entries of their own.
        refine (locates_readEntries fun key i hi => ?_).map _
        have hle := Value.weight_le_of_mem_members hi
        rw [Json.weight] at hw
        exact ⟨(Entries.mem_iff_get? hj.distinct).mp hi,
          ih i.weight (by omega) rfl (by omega) (hj.member hi)⟩
    | _ =>
      rw [readEntry_of_members?_eq_none rfl]
      exact .error ⟨_, rfl, rfl, rfl⟩

/-- An entry that is read as a field is the declaration of one. -/
theorem exists_readField_of_readEntry (h : readEntry node j = .ok (.field f)) :
    ∃ ms, j = .object ms ∧ ∃ g, readField j = .ok g := by
  cases j with
  | object ms =>
    rw [readEntry] at h
    split at h
    · obtain ⟨g, hg, -⟩ := bind_eq_ok_iff.mp h
      exact ⟨ms, rfl, g, (relocates_readFieldAt _).eq_ok_iff.mp hg⟩
    · obtain ⟨es, -, hes⟩ := bind_eq_ok_iff.mp h
      cases hes
  | _ =>
    rw [readEntry_of_members?_eq_none rfl] at h
    cases h

theorem locates_readNested (hn : Traced n) (hweight : j.weight < n) (hj : j.Proper)
    (hget : Entries.get? "schema" members = some j)
    (htype : Entries.get? "type" members = some (.string "dict")) :
    Locates (.object members) (readNested [] (some j)) := by
  refine (Locates.member (relocates_readEntry j) (locates_readEntry_of_traced hn hweight hj)
    hget).bind fun entry hentry => ?_
  cases entry with
  | nested entries => exact .ok _
  | field f =>
    obtain ⟨ms, hms, hfield⟩ := exists_readField_of_readEntry hentry
    exact .error ⟨j, Pointer.resolve?_object.trans hget, ms, hms,
      .inr (.inr ⟨rfl, hfield, [], members, rfl, rfl, htype⟩)⟩

theorem locates_readBase (hn : Traced n) (hweight : Json.weightMembers members < n)
    (hj : (Json.object members).Proper)
    (htype : Entries.get? "type" members = some (.string typeName)) :
    Locates (.object members) (readBase [] typeName members) := by
  have hmember : ∀ {key j}, Entries.get? key members = some j → j.weight < n ∧ j.Proper := by
    intro key j hget
    have hle := Json.weight_le_of_get? hget
    exact ⟨by omega, hj.member (Entries.mem_of_get?_eq_some hget)⟩
  rw [readBase]
  split
  · cases hget : Entries.get? "fields" members with
    | none => exact .ok _
    | some j => exact locates_readList hn (hmember hget).1 (hmember hget).2 hget
  · split
    · next hdict =>
      subst hdict
      cases hget : Entries.get? "schema" members with
      | none => exact .ok _
      | some j => exact locates_readNested hn (hmember hget).1 (hmember hget).2 hget htype
    · next hlist hdict =>
      cases hplain : plainField? typeName with
      | some f => exact .ok f
      | none =>
        have hunknown : typeName ∉ typeNames := by
          intro hknown
          have hsome := plainField?_isSome_iff.mpr ⟨hknown, hlist, hdict⟩
          rw [hplain] at hsome
          cases hsome
        exact .error ⟨.object members, rfl, htype, hunknown⟩

theorem traced (n : Nat) : Traced n := by
  induction n with
  | zero =>
    intro j hweight
    omega
  | succ n hn =>
    intro j hweight hj
    cases j with
    | object members =>
      rw [Json.weight] at hweight
      have hdistinct := hj.distinct
      rw [readFieldAt_eq]
      refine locates_readType.bind fun typeName htype => ?_
      rw [readType_eq_ok_iff] at htype
      refine (locates_readBase hn (by omega) hj htype).bind fun base hbase => ?_
      have hmembers : ∀ option j, (option, j) ∈ members →
          Entries.get? option members = some j := fun _ _ => (Entries.mem_iff_get? hdistinct).mp
      refine (locates_setOptions hmembers).bind fun f hf => ?_
      -- Up to here nothing has looked at the default, so the rest declares the field without it.
      obtain ⟨hadmitted, rfl⟩ := (setOptions_eq_ok_iff hdistinct).mp hf
      exact locates_readDefault ((readField_erase_default_eq_ok_iff hdistinct).mpr
        ⟨typeName, htype, base, hbase, hadmitted, rfl⟩)
    | _ =>
      rw [readFieldAt_of_members?_eq_none rfl]
      exact .error ⟨_, rfl, rfl, rfl⟩

theorem locates_readEntry (hj : j.Proper) : Locates j (readEntry [] j) :=
  locates_readEntry_of_traced (traced _) (Nat.lt_succ_self _) hj

end Declaration

/-! ## Schemas -/

namespace Schema

theorem locates_readParts {members ms : List (String × Json)} {parts : Parts}
    (h : ∀ key j, (key, j) ∈ ms → Entries.get? key members = some j ∧ j.Proper) :
    Locates (.object members) (readParts ms parts) := by
  induction ms generalizing parts with
  | nil => exact .ok parts
  | cons m rest ih =>
    obtain ⟨key, j⟩ := m
    obtain ⟨hget, hj⟩ := h key j List.mem_cons_self
    have htail : ∀ {parts}, Locates (.object members) (readParts rest parts) :=
      ih fun k i hi => h k i (List.mem_cons_of_mem _ hi)
    cases hheading : isHeading key with
    | true =>
      rw [readParts_cons_heading hheading]
      exact (locates_readText (mem_keys_of_get? hget)).bind fun text _ => htail
    | false =>
      rw [readParts_cons_entry hheading]
      exact (Locates.member (relocates_readEntry j) (locates_readEntry hj) hget).bind
        fun entry _ => htail

theorem locates_ofDeclaration {j : Json} (hj : j.Proper) : Locates j (ofDeclaration j) := by
  cases j with
  | object members =>
    refine (locates_readParts fun key j hmem => ?_).map _
    exact ⟨(Entries.mem_iff_get? hj.distinct).mp hmem, hj.member hmem⟩
  | _ => exact .error ⟨_, rfl, rfl, rfl⟩

/-- The path in the error about a declaration, as it is shown, is a pointer to a node of the
declaration that shows the fault. A slash by itself may also stand for the whole declaration. -/
theorem error_located (j : Json) (e : DeclarationError) (hj : j.Proper)
    (h : ofDeclaration j = .error e) :
    (e.pointer = [] ∧ e.pointer.shown = "/" ∨
        Pointer.read? e.pointer.shown = some e.pointer) ∧
      ∃ i, e.pointer.resolve? j = some i ∧ e.ShownBy j i := by
  refine ⟨?_, locates_ofDeclaration hj e h⟩
  cases hpointer : e.pointer with
  | nil => exact .inl ⟨rfl, rfl⟩
  | cons token p => exact .inr (Pointer.read?_text (token :: p))

/-! ### A type that there is not -/

/-- An unknown type among the candidates of a list, below keys with characters that pointers
escape. -/
def blobDeclaration : Json :=
  .object [("a/b", .object [("~", .object [("type", .string "list"),
    ("fields", .array [.object [("type", .string "blob")]])])])]

theorem ofDeclaration_blob :
    ofDeclaration blobDeclaration = .error (.unknownType ["a/b", "~", "fields", "0"] "blob") := by
  have hindex : Nat.repr 0 = "0" := rfl
  simp [ofDeclaration, blobDeclaration, readParts, readEntry, readEntries, readFieldAt_eq,
    readType, readBase, readList, readItems, declaresField, Entries.get?, plainField?,
    Pointer.child, hindex]

theorem error_located_blob :
    ofDeclaration blobDeclaration = .error (.unknownType ["a/b", "~", "fields", "0"] "blob") ∧
      Pointer.read? "/a~1b/~0/fields/0" = some ["a/b", "~", "fields", "0"] ∧
      ∃ i, Pointer.resolve? ["a/b", "~", "fields", "0"] blobDeclaration = some i ∧
        i.member? "type" = some (.string "blob") ∧ "blob" ∉ typeNames := by
  obtain ⟨hpointer, hshown⟩ := error_located _ _ (by decide) ofDeclaration_blob
  refine ⟨ofDeclaration_blob, ?_, hshown⟩
  rcases hpointer with ⟨hroot, -⟩ | hread
  · cases hroot
  · exact hread

end Schema

end TypedDocument
