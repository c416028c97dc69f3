import TypedDocument.Declaration.Schema
import TypedDocument.Proofs.Declaration.Declared

/-!
# Reading gives declared fields

The steps of reading a declaration keep to what `Field.Declared` says: the fields it holds are read
first, the options are set on a new field that holds these, and the default comes last. The
induction is on the weight of the declaration, since declarations within a default are read from
what the default weighs.
-/

namespace TypedDocument

variable {inDefault : Bool}

/-! ## Dicts -/

theorem Dict.exists_mem_of_mem_ofEntries {es : List (SchemaKey × SchemaEntry)} {key : SchemaKey}
    {c : Field} (h : (key, c) ∈ Dict.ofEntries es) : ∃ e, (key, e) ∈ es ∧ e.toField = c := by
  have hmem := Entries.mem_of_mem_ofList h
  rw [SchemaEntry.toFields_eq_map] at hmem
  obtain ⟨⟨k, e⟩, he, heq⟩ := List.mem_map.mp hmem
  cases heq
  exact ⟨e, he, rfl⟩

/-- Entries whose keys stand in the declaration as texts make a declared field. -/
theorem Field.declared_dict_ofEntries {es : List (SchemaKey × SchemaEntry)}
    (keys : ∀ key e, (key, e) ∈ es → ∃ name, key = .ofText name)
    (h : ∀ key e, (key, e) ∈ es → e.toField.Declared inDefault) :
    (Field.dict (Dict.ofEntries es)).Declared inDefault := by
  refine declared_dict ⟨Entries.distinct_ofList _, ?_⟩ ?_
  · intro key c hc
    obtain ⟨e, he, -⟩ := Dict.exists_mem_of_mem_ofEntries hc
    obtain ⟨name, rfl⟩ := keys key e he
    rw [SchemaKey.text_ofText]
  · intro key c hc
    obtain ⟨e, he, rfl⟩ := Dict.exists_mem_of_mem_ofEntries hc
    exact h key e he

namespace Declaration

variable {n : Nat} {j : Json} {node : Pointer} {typeName : String} {f g : Field}
  {ms : List (String × Json)}

/-- Declarations below a weight give declared fields. -/
def SoundBelow (n : Nat) : Prop :=
  ∀ inDefault j node f, j.weight < n → j.Declares inDefault → readFieldAt node j = .ok f →
    f.Declared inDefault

/-! ## Entries and candidates -/

theorem mem_readEntries {es : List (SchemaKey × SchemaEntry)} (h : readEntries node ms = .ok es) :
    ∀ key e, (key, e) ∈ es →
      ∃ name i, (name, i) ∈ ms ∧ key = .ofText name ∧ readEntry (node.child name) i = .ok e := by
  rw [readEntries_eq_traverse] at h
  obtain ⟨read, hread, rfl⟩ := map_eq_ok_iff.mp h
  intro key e he
  obtain ⟨⟨name, e⟩, hmem, heq⟩ := List.mem_map.mp he
  cases heq
  obtain ⟨i, hi, hie⟩ := Entries.mem_traverse hread name e hmem
  exact ⟨name, i, hi, rfl, hie⟩

theorem declared_readEntry (hn : SoundBelow n) :
    ∀ {j node e}, j.weight < n → j.Declares inDefault → readEntry node j = .ok e →
      e.toField.Declared inDefault := by
  intro j
  induction hw : j.weight using Nat.strongRecOn generalizing j with
  | ind w ih =>
    intro node e hlt hj h
    cases j with
    | object ms =>
      rw [readEntry] at h
      split at h
      · obtain ⟨f, hf, rfl⟩ : ∃ f, readFieldAt node (.object ms) = .ok f ∧
            SchemaEntry.field f = e := by
          simpa [bind_eq_ok_iff] using h
        exact hn _ _ node f (hw ▸ hlt) hj hf
      · obtain ⟨es, hes, rfl⟩ : ∃ es, readEntries node ms = .ok es ∧
            SchemaEntry.nested es = e := by
          simpa [bind_eq_ok_iff] using h
        rw [SchemaEntry.toField]
        refine Field.declared_dict_ofEntries ?_ ?_
        · intro key e he
          obtain ⟨name, -, -, hkey, -⟩ := mem_readEntries hes key e he
          exact ⟨name, hkey⟩
        · intro key e he
          obtain ⟨name, i, hi, -, hie⟩ := mem_readEntries hes key e he
          have hle := Value.weight_le_of_mem_members hi
          rw [Json.weight] at hw
          exact ih i.weight (by omega) rfl (by omega) (hj.member name i hi) hie
    | _ =>
      rw [readEntry_of_members?_eq_none rfl] at h
      cases h

theorem declared_readItems (hn : SoundBelow n) {items : List Json} {k : Nat} {fs : List Field}
    (hweight : Json.weightItems items < n) (hitems : ∀ i ∈ items, i.Declares inDefault)
    (h : readItems node k items = .ok fs) : ∀ f ∈ fs, f.Declared inDefault := by
  induction items generalizing k fs with
  | nil =>
    rw [readItems] at h
    cases h
    simp
  | cons i rest ih =>
    obtain ⟨f, hf, gs, hgs, rfl⟩ : ∃ f, readFieldAt (node.child (toString k)) i = .ok f ∧
        ∃ gs, readItems node (k + 1) rest = .ok gs ∧ f :: gs = fs := by
      rw [readItems] at h
      simpa [bind_eq_ok_iff] using h
    rw [Json.weightItems] at hweight
    intro g hg
    rcases List.mem_cons.mp hg with rfl | hg
    · exact hn _ i _ g (by omega) (hitems i List.mem_cons_self) hf
    · exact ih (by omega) (fun i hi => hitems i (List.mem_cons_of_mem _ hi)) hgs g hg

/-! ## The steps of reading a field -/

theorem declared_readList (hn : SoundBelow n) {o : Option Json}
    (hweight : ∀ i, o = some i → i.weight < n) (ho : ∀ i, o = some i → i.Declares inDefault)
    (h : readList node o = .ok f) : f.Declared inDefault := by
  have hsingle : ∀ i, o = some i → (∀ items, i ≠ .array items) → f.Declared inDefault := by
    rintro i rfl hi
    rw [readList_single hi] at h
    obtain ⟨c, hc, rfl⟩ : ∃ c, readFieldAt (node.child "fields") i = .ok c ∧
        Field.list [c] = f := by
      simpa [bind_eq_ok_iff] using h
    refine Field.declared_list ?_
    intro c' hc'
    cases List.mem_singleton.mp hc'
    exact hn _ i _ _ (hweight i rfl) (ho i rfl) hc
  cases o with
  | none =>
    cases h
    exact Field.declared_list fun _ hc => by cases hc
  | some i =>
    cases i with
    | array items =>
      obtain ⟨cs, hcs, rfl⟩ : ∃ cs, readItems (node.child "fields") 0 items = .ok cs ∧
          Field.list cs = f := by
        simpa [readList, bind_eq_ok_iff] using h
      have hlt := hweight _ rfl
      rw [Json.weight] at hlt
      exact Field.declared_list (declared_readItems hn (by omega) (ho _ rfl).item hcs)
    | _ => exact hsingle _ rfl (by simp)

theorem declared_readNested (hn : SoundBelow n) {o : Option Json}
    (hweight : ∀ i, o = some i → i.weight < n) (ho : ∀ i, o = some i → i.Declares inDefault)
    (h : readNested node o = .ok f) : f.Declared inDefault := by
  cases o with
  | none =>
    cases h
    exact Field.declared_dict ⟨List.nodup_nil, fun _ _ hc => by cases hc⟩ fun _ _ hc => by cases hc
  | some i =>
    rw [readNested, bind_eq_ok_iff] at h
    obtain ⟨e, he, h⟩ := h
    have hfield := declared_readEntry hn (hweight i rfl) (ho i rfl) he
    cases e with
    | field => cases h
    | nested es =>
      cases h
      rw [SchemaEntry.toField] at hfield
      exact hfield

theorem declared_readBase (hn : SoundBelow n) (hweight : Json.weightMembers ms < n)
    (hms : ∀ key i, (key, i) ∈ ms → i.Declares inDefault) (h : readBase node typeName ms = .ok f) :
    f.Declared inDefault := by
  have hlt : ∀ key i, Entries.get? key ms = some i → i.weight < n := by
    intro key i hi
    have := Json.weight_le_of_get? hi
    omega
  have hmember : ∀ key i, Entries.get? key ms = some i → i.Declares inDefault :=
    fun key i hi => hms key i (Entries.mem_of_get?_eq_some hi)
  rw [readBase] at h
  split at h
  · exact declared_readList hn (hlt _) (hmember _) h
  · split at h
    · exact declared_readNested hn (hlt _) (hmember _) h
    · split at h
      · next f' hf =>
        cases h
        exact Field.declared_of_plainField? hf
      · cases h

theorem declared_readDefault (hn : SoundBelow n) (hweight : Json.weightMembers ms < n)
    (hms : ∀ key i, (key, i) ∈ ms → i.Declares inDefault) (hf : f.Declared inDefault)
    (h : readDefault readField node ms f = .ok g) : g.Declared inDefault := by
  rw [readDefault] at h
  split at h
  · cases h
    exact hf
  · next d hd =>
    split at h
    · next v hv =>
      cases h
      have hraw := Value.isRaw_ofJson (hms _ _ (Entries.mem_of_get?_eq_some hd)).inRange
      have hlt := Json.weight_le_of_get? hd
      cases hf with
      | mk bounds lengths candidates keys entries =>
        have hkind : (f.withDefault v).kind = f.kind := rfl
        have hdecode := (Value.decodeWith_of_kind_eq hkind).trans hv
        refine .mk bounds lengths candidates keys entries (.value hraw hdecode) ?_
        rintro _ c ⟨⟩ hc
        obtain ⟨es, j, hes, hj, hjc⟩ :=
          Value.exists_declaration_of_within (Value.isRaw_iff.mp hraw).1 hv hc
        have hle := Value.weight_le_of_within_ofJson hes hj
        have hdeclares : j.Declares true :=
          ⟨Value.inRange_of_toJson j hj, fun _ => Json.stable_of_toJson j hj⟩
        exact hn true j [] c (by omega) hdeclares hjc
    · cases h

/-! ## Whole declarations -/

theorem soundBelow (n : Nat) : SoundBelow n := by
  induction n with
  | zero =>
    intro inDefault j node f hlt
    omega
  | succ n hn =>
    intro inDefault j node f hlt hj h
    cases j with
    | object ms =>
      rw [Json.weight] at hlt
      rw [readFieldAt_eq] at h
      obtain ⟨typeName, -, h⟩ := bind_eq_ok_iff.mp h
      obtain ⟨base, hbase, h⟩ := bind_eq_ok_iff.mp h
      obtain ⟨f', hf', h⟩ := bind_eq_ok_iff.mp h
      have hdeclared := declared_readBase hn (by omega) hj.member hbase
      refine declared_readDefault hn (by omega) hj.member ?_ h
      exact of_setOptions_eq_ok (p := fun f => f.Declared inDefault)
        (fun option i hi f hf => declared_withMembers (hj.member option i hi) hf) hf' hdeclared
    | _ =>
      rw [readFieldAt_of_members?_eq_none rfl] at h
      cases h

/-- What a declaration gives is a declared field. -/
theorem declared_of_readField (hj : j.InRange) (h : readField j = .ok f) : f.Declared false :=
  soundBelow (j.weight + 1) false j [] f (Nat.lt_succ_self _) ⟨hj, nofun⟩ h

theorem declared_of_readEntry {e : SchemaEntry} (hj : j.InRange) (h : readEntry node j = .ok e) :
    e.toField.Declared false :=
  declared_readEntry (soundBelow (j.weight + 1)) (Nat.lt_succ_self _) ⟨hj, nofun⟩ h

end Declaration

/-! ## Schemas -/

namespace Schema

/-- Entries under keys that may stand in the declaration of a schema. -/
structure DeclaredEntries (es : List (SchemaKey × SchemaEntry)) : Prop where
  keys : ∀ key e, (key, e) ∈ es → ∃ name, key = .ofText name ∧ name ≠ "$title" ∧
    name ≠ "$description"
  fields : ∀ key e, (key, e) ∈ es → e.toField.Declared false

theorem declaredEntries_readParts {ms : List (String × Json)} {parts parts' : Parts}
    (hms : ∀ key i, (key, i) ∈ ms → i.InRange) (hparts : DeclaredEntries parts.entries)
    (h : readParts ms parts = .ok parts') : DeclaredEntries parts'.entries := by
  induction ms generalizing parts with
  | nil =>
    cases h
    exact hparts
  | cons m rest ih =>
    obtain ⟨key, j⟩ := m
    have hrest := fun k i hi => hms k i (List.mem_cons_of_mem _ hi)
    rw [readParts] at h
    split at h
    · obtain ⟨title, -, h⟩ := bind_eq_ok_iff.mp h
      refine ih hrest ?_ h
      exact hparts
    · next htitle =>
      split at h
      · obtain ⟨description, -, h⟩ := bind_eq_ok_iff.mp h
        refine ih hrest ?_ h
        exact hparts
      · next hdescription =>
        obtain ⟨entry, hentry, h⟩ := bind_eq_ok_iff.mp h
        refine ih hrest ⟨?_, ?_⟩ h
        · intro k e he
          rcases List.mem_append.mp he with he | he
          · exact hparts.keys k e he
          · cases List.mem_singleton.mp he
            exact ⟨key, rfl, htitle, hdescription⟩
        · intro k e he
          rcases List.mem_append.mp he with he | he
          · exact hparts.fields k e he
          · cases List.mem_singleton.mp he
            exact Declaration.declared_of_readEntry (hms key j List.mem_cons_self) hentry

/-- The fields of a declared schema are declared, and its keys leave the places of title and
description free. -/
theorem declared_of_ofDeclaration {j : Json} {s : Schema} (hj : j.InRange)
    (h : ofDeclaration j = .ok s) :
    (Field.dict s.root).Declared false ∧
      ∀ key f, (key, f) ∈ s.root → key.text ≠ "$title" ∧ key.text ≠ "$description" := by
  cases j with
  | object ms =>
    obtain ⟨parts, hparts, rfl⟩ : ∃ parts, readParts ms {} = .ok parts ∧
        ({ root := Dict.ofEntries parts.entries, title := parts.title,
           description := parts.description } : Schema) = s := by
      simpa [ofDeclaration, bind_eq_ok_iff] using h
    have hms : ∀ key i, (key, i) ∈ ms → i.InRange := by
      cases hj with
      | object inRange => exact inRange
    have hempty : DeclaredEntries [] := ⟨fun _ _ h => (by cases h), fun _ _ h => (by cases h)⟩
    have hentries := declaredEntries_readParts hms hempty hparts
    refine ⟨Field.declared_dict_ofEntries ?_ hentries.fields, ?_⟩
    · intro key e he
      obtain ⟨name, hkey, -⟩ := hentries.keys key e he
      exact ⟨name, hkey⟩
    · intro key f hf
      obtain ⟨e, he, -⟩ := Dict.exists_mem_of_mem_ofEntries hf
      obtain ⟨name, rfl, hname⟩ := hentries.keys key e he
      rw [SchemaKey.text_ofText]
      exact hname
  | _ => cases h

end Schema

end TypedDocument
