import TypedDocument.Proofs.Declaration.Options
import TypedDocument.Proofs.Declaration.Reading
import TypedDocument.Proofs.Reordering.Decoding
import TypedDocument.Proofs.Schema.Document

/-!
# Reading declarations does not depend on the order of members

Types, fields and defaults are looked up, and options are set all at once, so the order of the
members of a declaration shows only in the order of the entries of nested mappings. Reading follows
the declaration down, and from a default into further declarations; the induction is on the weight
of what is read.
-/

namespace TypedDocument

/-! ## Entries of schemas -/

/-- Two entries of the same form that stand for fields that are the same up to order. -/
inductive SchemaEntry.Reordered : SchemaEntry → SchemaEntry → Prop where
  | field {f g : Field} (fields : f.Reordered g) : SchemaEntry.Reordered (.field f) (.field g)
  | nested {es es' : List (SchemaKey × SchemaEntry)}
    (dicts : Entries.Reordered Field.Reordered (Dict.ofEntries es) (Dict.ofEntries es')) :
    SchemaEntry.Reordered (.nested es) (.nested es')

theorem Field.reordered_dict {d d' : Dict} (h : Entries.Reordered Field.Reordered d d') :
    (Field.dict d).Reordered (Field.dict d') :=
  .mk (.dict h.distinct h.distinct' h.keys h.values) (.refl _)

theorem SchemaEntry.Reordered.toField {e e' : SchemaEntry} (h : e.Reordered e') :
    e.toField.Reordered e'.toField := by
  cases h with
  | field fields => exact fields
  | nested dicts =>
    rw [SchemaEntry.toField, SchemaEntry.toField]
    exact Field.reordered_dict dicts

theorem Dict.ofEntries_reordered {es es' : Entries String SchemaEntry}
    (h : Entries.Reordered SchemaEntry.Reordered es es') :
    Entries.Reordered Field.Reordered
      (Dict.ofEntries (es.map fun e => (SchemaKey.ofText e.1, e.2)))
      (Dict.ofEntries (es'.map fun e => (SchemaKey.ofText e.1, e.2))) := by
  have hfields := h.map SchemaKey.ofText_injective fun _ _ => SchemaEntry.Reordered.toField
  have hdict : ∀ es : Entries String SchemaEntry,
      Entries.Distinct (es.map fun e => (SchemaKey.ofText e.1, e.2.toField)) →
      Dict.ofEntries (es.map fun e => (SchemaKey.ofText e.1, e.2)) =
        es.map fun e => (SchemaKey.ofText e.1, e.2.toField) := by
    intro es hes
    rw [Dict.ofEntries, SchemaEntry.toFields_eq_map, List.map_map]
    exact Entries.ofList_of_distinct hes
  rw [hdict es hfields.distinct, hdict es' hfields.distinct']
  exact hfields

namespace Declaration

variable {n : Nat} {i j : Json} {node node' : Pointer} {typeName : String}
  {ms ms' : List (String × Json)}

/-- Declarations below a weight are read alike in whatever order their members stand. -/
def ReadsAlike (n : Nat) : Prop :=
  ∀ i j node node', i.weight < n → i.Reordered j →
    Agree Field.Reordered (readFieldAt node i) (readFieldAt node' j)

theorem declaresField_reordered (h : Entries.Reordered Json.Reordered ms ms') :
    declaresField ms = declaresField ms' := by
  have htype := h.get? "type"
  rw [declaresField, declaresField]
  generalize Entries.get? "type" ms = o at htype ⊢
  generalize Entries.get? "type" ms' = o' at htype ⊢
  cases htype with
  | none => rfl
  | some hij => cases hij <;> rfl

/-- The entries of a schema are read alike, if declarations are. -/
theorem readEntry_reordered (hn : ReadsAlike n) :
    ∀ {i j node node'}, i.weight < n → i.Reordered j →
      Agree SchemaEntry.Reordered (readEntry node i) (readEntry node' j) := by
  intro i
  induction hw : i.weight using Nat.strongRecOn generalizing i with
  | ind w ih =>
    intro j node node' hlt hij
    cases hij with
    | leaf plain =>
      have hnone : i.members? = none := by
        cases i with
        | object => cases plain
        | _ => rfl
      rw [readEntry_of_members?_eq_none hnone, readEntry_of_members?_eq_none hnone]
      trivial
    | array elements =>
      rw [readEntry_of_members?_eq_none rfl, readEntry_of_members?_eq_none rfl]
      trivial
    | @object ms ms' distinct distinct' keys values =>
      have hms : Entries.Reordered Json.Reordered ms ms' := ⟨distinct, distinct', keys, values⟩
      rw [readEntry, readEntry, declaresField_reordered hms]
      split
      · refine Agree.bind (hn _ _ node node' (hw ▸ hlt) (Json.reordered_object_iff.mpr hms)) ?_
        intro f g
        exact SchemaEntry.Reordered.field
      · rw [readEntries_eq_traverse, readEntries_eq_traverse]
        have hentries : Agree (Entries.Reordered SchemaEntry.Reordered)
            (Entries.traverse (fun key j => readEntry (node.child key) j) ms)
            (Entries.traverse (fun key j => readEntry (node'.child key) j) ms') :=
          hms.traverse fun key i j hi hij => by
            have hle := Value.weight_le_of_mem_members hi
            rw [Json.weight] at hw
            exact ih i.weight (by omega) rfl (by omega) hij
        have hdicts := hentries.map
          (f := fun es => es.map fun e => (SchemaKey.ofText e.1, e.2))
          (g := fun es => es.map fun e => (SchemaKey.ofText e.1, e.2))
          (s := fun es es' =>
            Entries.Reordered Field.Reordered (Dict.ofEntries es) (Dict.ofEntries es'))
          fun _ _ => Dict.ofEntries_reordered
        refine hdicts.bind ?_
        intro es es'
        exact SchemaEntry.Reordered.nested

theorem readItems_reordered (hn : ReadsAlike n) {items items' : List Json} {k k' : Nat}
    (hweight : Json.weightItems items < n) (h : Json.ItemsReordered items items') :
    Agree Field.CandidatesReordered (readItems node k items) (readItems node' k' items') := by
  induction items generalizing items' k k' with
  | nil =>
    cases h
    rw [readItems, readItems]
    exact Field.CandidatesReordered.nil
  | cons i rest ih =>
    cases h with
    | cons head tail =>
      rw [Json.weightItems] at hweight
      rw [readItems, readItems]
      refine (hn _ _ _ _ (by omega) head).bind ?_
      intro f g hfg
      refine (ih (by omega) tail).bind ?_
      intro fs gs hfs
      exact Field.CandidatesReordered.cons hfg hfs

/-! ## The steps of reading a field -/

section Steps

variable {f g : Field} (hms : Entries.Reordered Json.Reordered ms ms')

include hms

theorem readType_reordered : Agree Eq (readType node ms) (readType node' ms') := by
  have htype := hms.get? "type"
  rw [readType, readType]
  generalize Entries.get? "type" ms = o at htype ⊢
  generalize Entries.get? "type" ms' = o' at htype ⊢
  cases htype with
  | none => trivial
  | some hij =>
    cases hij with
    | leaf =>
      split
      · exact rfl
      · trivial
      · trivial
    | _ => trivial

omit hms in
theorem reordered_list {candidates candidates' : List Field}
    (h : Field.CandidatesReordered candidates candidates') :
    (Field.list candidates).Reordered (Field.list candidates') :=
  .mk (.list h) (.refl _)

omit hms in
theorem readList_reordered (hn : ReadsAlike n) {o o' : Option Json}
    (hweight : ∀ i, o = some i → i.weight < n) (h : Option.Rel Json.Reordered o o') :
    Agree Field.Reordered (readList node o) (readList node' o') := by
  have hsingle : ∀ i j, i.weight < n → i.Reordered j → (∀ items, i ≠ .array items) →
      (∀ items, j ≠ .array items) →
      Agree Field.Reordered (readList node (some i)) (readList node' (some j)) := by
    intro i j hlt hij hi hj
    rw [readList_single hi, readList_single hj]
    refine (hn i j _ _ hlt hij).bind ?_
    intro f g hfg
    exact reordered_list (.cons hfg .nil)
  cases h with
  | none => exact Field.Reordered.refl _
  | some hij =>
    have hlt := hweight _ rfl
    cases hij with
    | leaf plain =>
      refine hsingle _ _ hlt (.leaf plain) ?_ ?_
      all_goals
        rintro items rfl
        cases plain
    | @array items items' elements =>
      rw [Json.weight] at hlt
      refine (readItems_reordered hn (by omega) elements).bind ?_
      intro fs gs hfs
      exact reordered_list hfs
    | object distinct distinct' keys values =>
      refine hsingle _ _ hlt (.object distinct distinct' keys values) ?_ ?_ <;>
        exact fun _ h => by cases h

omit hms in
theorem readNested_reordered (hn : ReadsAlike n) {o o' : Option Json}
    (hweight : ∀ i, o = some i → i.weight < n) (h : Option.Rel Json.Reordered o o') :
    Agree Field.Reordered (readNested node o) (readNested node' o') := by
  cases h with
  | none => exact Field.Reordered.refl _
  | some hij =>
    refine (readEntry_reordered hn (hweight _ rfl) hij).bind ?_
    intro e e' he
    cases he with
    | field => trivial
    | nested dicts => exact Field.reordered_dict dicts

theorem readBase_reordered (hn : ReadsAlike n) (hweight : Json.weightMembers ms < n) :
    Agree Field.Reordered (readBase node typeName ms) (readBase node' typeName ms') := by
  have hmember : ∀ key i, Entries.get? key ms = some i → i.weight < n := by
    intro key i hi
    have := Json.weight_le_of_get? hi
    omega
  rw [readBase, readBase]
  split
  · exact readList_reordered hn (hmember _) (hms.get? _)
  · split
    · exact readNested_reordered hn (hmember _) (hms.get? _)
    · cases plainField? typeName with
      | none => trivial
      | some f => exact Field.Reordered.refl f

/-! ### Options -/

theorem said_reordered {α : Type} {read : Json → Option α}
    (hread : ∀ i j, i.Reordered j → read i = read j) (key : String) :
    said read key ms = said read key ms' := by
  have hkey := hms.get? key
  rw [said, said]
  generalize Entries.get? key ms = o at hkey ⊢
  generalize Entries.get? key ms' = o' at hkey ⊢
  cases hkey with
  | none => rfl
  | some hij => exact hread _ _ hij

omit hms in
theorem admits_reordered {kind kind' : FieldKind} (h : kind.Reordered kind') {option : String}
    (hij : i.Reordered j) : Admits typeName kind option i = Admits typeName kind' option j := by
  have hkind : hasBounds kind = hasBounds kind' ∧ hasRules kind = hasRules kind' ∧
      isList kind = isList kind' := by
    cases h <;> exact ⟨rfl, rfl, rfl⟩
  obtain ⟨hbounds, hrules, hlist⟩ := hkind
  have hjson : flag? i = flag? j ∧ i.string? = j.string? ∧ length? i = length? j ∧
      bound? i = bound? j ∧ pattern? i = pattern? j := by
    cases hij <;> exact ⟨rfl, rfl, rfl, rfl, rfl⟩
  obtain ⟨hflag, htext, hlength, hbound, hpattern⟩ := hjson
  simp only [Admits, hbounds, hrules, hlist, hflag, htext, hlength, hbound, hpattern]

theorem kind_withMembers_reordered {kind kind' : FieldKind} (h : kind.Reordered kind') :
    (kind.withMembers ms).Reordered (kind'.withMembers ms') := by
  have hlength : ∀ key, said length? key ms = said length? key ms' :=
    said_reordered hms fun i j h => by cases h <;> rfl
  have hbound : ∀ key, said bound? key ms = said bound? key ms' :=
    said_reordered hms fun i j h => by cases h <;> rfl
  have hpattern : ∀ key, said pattern? key ms = said pattern? key ms' :=
    said_reordered hms fun i j h => by cases h <;> rfl
  cases h with
  | refl =>
    have hsame : kind.withMembers ms = kind.withMembers ms' := by
      cases kind <;> simp only [FieldKind.withMembers, Bounds.withMembers, TextRules.withMembers,
        hlength, hbound, hpattern]
    rw [hsame]
    exact .refl _
  | list same =>
    rw [FieldKind.withMembers, FieldKind.withMembers, hlength, hlength]
    exact .list same
  | dict distinct distinct' keys values => exact .dict distinct distinct' keys values

theorem withMembers_reordered (hfg : f.Reordered g) :
    (f.withMembers ms).Reordered (g.withMembers ms') := by
  have hflag : ∀ key, said flag? key ms = said flag? key ms' :=
    said_reordered hms fun i j h => by cases h <;> rfl
  have htext : ∀ key, said Json.string? key ms = said Json.string? key ms' :=
    said_reordered hms fun i j h => by cases h <;> rfl
  refine Field.reordered_of_parts (kind_withMembers_reordered hms hfg.kind) ?_ hfg.default
  have hsame : f.options.withMembers ms = f.options.withMembers ms' := by
    simp only [FieldOptions.withMembers, hflag, htext]
  exact hsame.trans (congrArg _ hfg.options)

theorem setOptions_reordered (hfg : f.Reordered g) :
    Agree Field.Reordered (setOptions node typeName ms f) (setOptions node' typeName ms' g) := by
  have hadmitted :
      (∀ option i, (option, i) ∈ ms → Admits typeName f.kind option i = true) ↔
        ∀ option j, (option, j) ∈ ms' → Admits typeName g.kind option j = true :=
    hms.forall_iff fun option i j _ hij => by rw [admits_reordered hfg.kind hij]
  apply Agree.of_iff
  · simp only [setOptions_eq_ok_iff hms.distinct, setOptions_eq_ok_iff hms.distinct',
      exists_and_left, exists_eq, and_true]
    exact hadmitted
  · intro f' g' hf' hg'
    obtain ⟨-, rfl⟩ := (setOptions_eq_ok_iff hms.distinct).mp hf'
    obtain ⟨-, rfl⟩ := (setOptions_eq_ok_iff hms.distinct').mp hg'
    exact withMembers_reordered hms hfg

/-! ### Defaults -/

theorem readDefault_reordered (hn : ReadsAlike n) (hweight : Json.weightMembers ms < n)
    (hfg : f.Reordered g) :
    Agree Field.Reordered (readDefault readField node ms f)
      (readDefault readField node' ms' g) := by
  have hdefault := hms.get? "default"
  rw [readDefault, readDefault]
  cases hi : Entries.get? "default" ms with
  | none =>
    rw [hi] at hdefault
    generalize Entries.get? "default" ms' = o' at hdefault ⊢
    cases hdefault
    exact hfg
  | some i =>
    rw [hi] at hdefault
    have hlt := Json.weight_le_of_get? hi
    generalize Entries.get? "default" ms' = o' at hdefault ⊢
    cases hdefault with
    | @some _ j hij =>
      have hreaders : (Value.ofJson i).ReadersAgree readField readField := by
        intro es k l hes hk hkl
        have hle := Value.weight_le_of_within_ofJson hes hk
        exact hn k l [] [] (by omega) hkl
      have hdecode := Value.decodeWith_reordered hreaders (Value.ofJson_reordered hij) hfg
      dsimp only
      cases hx : Value.decodeWith readField (Value.ofJson i) f with
      | error =>
        cases hy : Value.decodeWith readField (Value.ofJson j) g with
        | error => trivial
        | ok w =>
          rw [hx, hy] at hdecode
          cases hdecode
      | ok v =>
        obtain ⟨w, hw, hvw⟩ := hdecode.of_eq_ok hx
        rw [hw]
        exact Field.reordered_of_parts hfg.kind hfg.options (.value hvw)

end Steps

/-! ## Whole declarations -/

theorem readsAlike (n : Nat) : ReadsAlike n := by
  induction n with
  | zero =>
    intro i j node node' hlt
    omega
  | succ n hn =>
    intro i j node node' hlt hij
    cases hij with
    | leaf plain =>
      have hnone : i.members? = none := by
        cases i with
        | object => cases plain
        | _ => rfl
      rw [readFieldAt_of_members?_eq_none hnone, readFieldAt_of_members?_eq_none hnone]
      trivial
    | array elements =>
      rw [readFieldAt_of_members?_eq_none rfl, readFieldAt_of_members?_eq_none rfl]
      trivial
    | @object ms ms' distinct distinct' keys values =>
      have hms : Entries.Reordered Json.Reordered ms ms' := ⟨distinct, distinct', keys, values⟩
      rw [Json.weight] at hlt
      rw [readFieldAt_eq, readFieldAt_eq]
      refine (readType_reordered hms).bind ?_
      rintro typeName _ rfl
      refine (readBase_reordered hms hn (by omega)).bind ?_
      intro f g hfg
      refine (setOptions_reordered hms hfg).bind ?_
      intro f g hfg
      exact readDefault_reordered hms hn (by omega) hfg

/-- Declarations that are the same up to the order of members declare fields that are, or neither
declares a field. -/
theorem readField_reordered (h : i.Reordered j) :
    Agree Field.Reordered (readField i) (readField j) :=
  readsAlike (i.weight + 1) i j [] [] (Nat.lt_succ_self _) h

end Declaration

namespace Schema

/-- Schemas whose fields are the same up to order decode documents alike in whatever order their
entries stand. -/
theorem decode_reordered {s s' : Schema} {v w : Value}
    (hroot : (Field.dict s.root).Reordered (Field.dict s'.root)) (h : v.Reordered w) :
    Agree Value.Reordered (s.decode v) (s'.decode w) := by
  have hreaders : v.ReadersAgree Declaration.readField Declaration.readField :=
    fun _ _ _ _ _ hij => Declaration.readField_reordered hij
  have hdecode := Value.decodeWith_reordered hreaders h hroot
  cases h with
  | map =>
    rw [decode_map, decode_map]
    exact hdecode
  | leaf plain =>
    cases v with
    | map => cases plain
    | _ => trivial
  | _ => trivial

end Schema

end TypedDocument
