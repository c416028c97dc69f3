import TypedDocument.Proofs.Declaration.Grammar
import TypedDocument.Proofs.Declaration.Parts
import TypedDocument.Proofs.Reordering.Reading

/-!
# The reader recognises the grammar of declarations

Exactly the declarations of the grammar can be read. Each step of the reader succeeds on exactly
what a clause of the grammar asks for, given that the declarations within a declaration are
recognised, and these weigh less. Where in a document a declaration stands does not matter to
whether it can be read, so the default can be checked with the rest of the declaration read on its
own.
-/

namespace TypedDocument.Declaration

variable {n : Nat} {node : Pointer} {typeName option : String} {j : Json} {kind : FieldKind}
  {f base : Field} {ms : List (String × Json)}

/-! ## The base of a field -/

theorem plainField?_isSome_iff :
    (plainField? typeName).isSome = true ↔
      typeName ∈ typeNames ∧ typeName ≠ "list" ∧ typeName ≠ "dict" := by
  unfold plainField?
  split <;> simp [typeNames]
  grind

theorem suits_of_plainField? (h : plainField? typeName = some f) : Suits typeName f.kind := by
  unfold plainField? at h
  split at h <;> cases h <;>
    exact ⟨by decide, by decide, by decide⟩

theorem exists_readBase_iff :
    (∃ base, readBase node typeName ms = .ok base) ↔
      typeName ∈ typeNames ∧
        (typeName = "list" → ∃ f, readList node (Entries.get? "fields" ms) = .ok f) ∧
        (typeName = "dict" → ∃ f, readNested node (Entries.get? "schema" ms) = .ok f) := by
  rw [readBase]
  split
  · next h => simp [h, typeNames]
  · split
    · next h => simp [h, typeNames]
    · next hlist hdict =>
      have hplain : (plainField? typeName).isSome = true ↔ _ := plainField?_isSome_iff
      cases h : plainField? typeName <;> simpa [h, hlist, hdict] using hplain

theorem exists_list_of_readList {o : Option Json} (h : readList node o = .ok f) :
    ∃ candidates, f = Field.list candidates := by
  cases o with
  | none =>
    cases h
    exact ⟨[], rfl⟩
  | some j =>
    cases j with
    | array items =>
      obtain ⟨fs, -, hf⟩ := bind_eq_ok_iff.mp h
      cases hf
      exact ⟨fs, rfl⟩
    | _ =>
      obtain ⟨g, -, hf⟩ := bind_eq_ok_iff.mp h
      cases hf
      exact ⟨[g], rfl⟩

theorem exists_dict_of_readNested {o : Option Json} (h : readNested node o = .ok f) :
    ∃ d, f = Field.dict d := by
  cases o with
  | none =>
    cases h
    exact ⟨[], rfl⟩
  | some j =>
    obtain ⟨entry, -, hf⟩ := bind_eq_ok_iff.mp h
    cases entry with
    | field => cases hf
    | nested entries =>
      cases hf
      exact ⟨Dict.ofEntries entries, rfl⟩

theorem suits_of_readBase (h : readBase node typeName ms = .ok base) :
    Suits typeName base.kind := by
  rw [readBase] at h
  split at h
  · next htype =>
    subst htype
    obtain ⟨candidates, rfl⟩ := exists_list_of_readList h
    exact ⟨iff_of_false Bool.false_ne_true (by decide),
      iff_of_false Bool.false_ne_true (by decide), iff_of_true rfl rfl⟩
  · split at h
    · next htype =>
      subst htype
      obtain ⟨d, rfl⟩ := exists_dict_of_readNested h
      exact ⟨iff_of_false Bool.false_ne_true (by decide),
        iff_of_false Bool.false_ne_true (by decide), iff_of_false Bool.false_ne_true (by decide)⟩
    · cases hplain : plainField? typeName with
      | none =>
        rw [hplain] at h
        cases h
      | some g =>
        rw [hplain] at h
        cases h
        exact suits_of_plainField? hplain

/-! ## Declarations with and without their default -/

theorem readType_eq_ok_iff :
    readType node ms = .ok typeName ↔ Entries.get? "type" ms = some (.string typeName) := by
  rw [readType]
  cases Entries.get? "type" ms with
  | none => simp [invalid]
  | some j => cases j <;> simp [expected, invalid]

section Distinct

variable (h : Entries.Distinct ms)

include h

/-- A member that may be missing can be read if it is missing or has the right form. -/
theorem exists_read_get?_iff {read : Option Json → Except DeclarationError Field} {key : String}
    {p : Json → Prop} (hnone : ∃ f, read none = .ok f)
    (hsome : ∀ i, (key, i) ∈ ms → ((∃ f, read (some i) = .ok f) ↔ p i)) :
    (∃ f, read (Entries.get? key ms) = .ok f) ↔ ∀ i, (key, i) ∈ ms → p i := by
  cases hget : Entries.get? key ms with
  | none => simpa [Entries.mem_iff_get? h, hget] using hnone
  | some i =>
    rw [hsome i (Entries.mem_of_get?_eq_some hget)]
    simp [Entries.mem_iff_get? h, hget]

theorem exists_readDefault_iff :
    (∃ g, readDefault readField node ms f = .ok g) ↔
      ∀ j, ("default", j) ∈ ms → ∃ v, f.decode (Value.ofJson j) = .ok v := by
  simp only [Entries.mem_iff_get? h, readDefault]
  cases Entries.get? "default" ms with
  | none => simp
  | some d =>
    simp only [Option.some.injEq, forall_eq', Field.decode]
    cases Value.decodeWith readField (Value.ofJson d) f <;> simp

theorem get?_erase_default {key : String} (hkey : key ≠ "default") :
    Entries.get? key (Entries.erase "default" ms) = Entries.get? key ms := by
  rw [Entries.get?_erase h, if_neg (by simpa using hkey.symm)]

/-- Neither the base nor the options of a field depend on its default. -/
@[simp] theorem readBase_erase_default :
    readBase node typeName (Entries.erase "default" ms) = readBase node typeName ms := by
  rw [readBase, readBase, get?_erase_default h (by decide), get?_erase_default h (by decide)]

@[simp] theorem withMembers_erase_default (f : Field) :
    f.withMembers (Entries.erase "default" ms) = f.withMembers ms := by
  have hsaid : ∀ {α : Type} (read : Json → Option α) (key : String), key ≠ "default" →
      said read key (Entries.erase "default" ms) = said read key ms := by
    intro α read key hkey
    rw [said, said, get?_erase_default h hkey]
  obtain ⟨kind, options, default⟩ := f
  cases kind <;>
    simp [Field.withMembers, FieldKind.withMembers, FieldOptions.withMembers, Bounds.withMembers,
      TextRules.withMembers, hsaid]

theorem admitted_erase_default_iff :
    (∀ option j, (option, j) ∈ Entries.erase "default" ms → Admits typeName kind option j = true) ↔
      ∀ option j, (option, j) ∈ ms → Admits typeName kind option j = true := by
  simp only [Entries.mem_erase_iff h]
  constructor
  · intro hadmitted option j hj
    by_cases hoption : option = "default"
    · subst hoption
      rfl
    · exact hadmitted option j ⟨hoption, hj⟩
  · exact fun hadmitted option j hj => hadmitted option j hj.2

@[simp] theorem readDefault_erase_default :
    readDefault readField node (Entries.erase "default" ms) f = .ok f := by
  rw [readDefault, Entries.get?_erase h, if_pos (by simp)]

/-- The field that a declaration declares but for its default. -/
theorem readField_erase_default_eq_ok_iff :
    readField (.object (Entries.erase "default" ms)) = .ok f ↔
      ∃ typeName, Entries.get? "type" ms = some (.string typeName) ∧
        ∃ base, readBase [] typeName ms = .ok base ∧
          (∀ option j, (option, j) ∈ ms → Admits typeName base.kind option j = true) ∧
          base.withMembers ms = f := by
  have htype : ∀ typeName, readType [] (Entries.erase "default" ms) = .ok typeName ↔
      Entries.get? "type" ms = some (.string typeName) := by
    intro typeName
    rw [readType_eq_ok_iff, get?_erase_default h (by decide)]
  simp only [readField, readFieldAt_eq, bind_eq_ok_iff, htype, readBase_erase_default h,
    setOptions_eq_ok_iff h.erase, admitted_erase_default_iff h, withMembers_erase_default h,
    readDefault_erase_default h, Except.ok.injEq, and_assoc, exists_and_left, exists_eq_left]

/-- A declaration can be read if the rest of it can be without the default, and the default can be
decoded by the field that comes of it. -/
theorem exists_readField_iff :
    (∃ f, readField (.object ms) = .ok f) ↔
      ∃ f, readField (.object (Entries.erase "default" ms)) = .ok f ∧
        ∀ j, ("default", j) ∈ ms → ∃ v, f.decode (Value.ofJson j) = .ok v := by
  have hdefault : ∀ f, (∀ j, ("default", j) ∈ ms → ∃ v, f.decode (Value.ofJson j) = .ok v) ↔
      ∃ g, readDefault readField [] ms f = .ok g := fun _ => (exists_readDefault_iff h).symm
  simp only [readField_erase_default_eq_ok_iff h, hdefault]
  simp only [readField, readFieldAt_eq, bind_eq_ok_iff, readType_eq_ok_iff,
    setOptions_eq_ok_iff h]
  constructor
  · rintro ⟨g, typeName, htype, base, hbase, _, ⟨hadmitted, rfl⟩, hg⟩
    exact ⟨_, ⟨typeName, htype, base, hbase, hadmitted, rfl⟩, g, hg⟩
  · rintro ⟨_, ⟨typeName, htype, base, hbase, hadmitted, rfl⟩, g, hg⟩
    exact ⟨g, typeName, htype, base, hbase, _, ⟨hadmitted, rfl⟩, hg⟩

end Distinct

/-! ## What can be read -/

/-- Below a weight, exactly the declarations of the grammar can be read as fields. -/
def Recognised (n : Nat) : Prop :=
  ∀ j node, j.weight < n → j.WellFormed → ((∃ f, readFieldAt node j = .ok f) ↔ FieldDeclaration j)

theorem exists_readItems_iff (hn : Recognised n) {items : List Json} {k : Nat}
    (hweight : Json.weightItems items < n) (hitems : ∀ j ∈ items, j.WellFormed) :
    (∃ fs, readItems node k items = .ok fs) ↔ ∀ j ∈ items, FieldDeclaration j := by
  induction items generalizing k with
  | nil => simp [readItems]
  | cons j rest ih =>
    rw [Json.weightItems] at hweight
    have hhead := hn j (node.child (toString k)) (by omega) (hitems j List.mem_cons_self)
    have htail := ih (k := k + 1) (by omega) fun i hi => hitems i (List.mem_cons_of_mem j hi)
    rw [List.forall_mem_cons, ← hhead, ← htail, readItems]
    simp only [bind_eq_ok_iff, pure_eq_ok, Except.ok.injEq]
    constructor
    · rintro ⟨_, f, hf, fs, hfs, rfl⟩
      exact ⟨⟨f, hf⟩, fs, hfs⟩
    · rintro ⟨⟨f, hf⟩, fs, hfs⟩
      exact ⟨_, f, hf, fs, hfs, rfl⟩

theorem exists_readList_iff (hn : Recognised n) (hweight : j.weight < n) (hj : j.WellFormed) :
    (∃ f, readList node (some j) = .ok f) ↔ CandidatesDeclaration j := by
  by_cases hitems : ∃ items, j = .array items
  · obtain ⟨items, rfl⟩ := hitems
    rw [Json.weight] at hweight
    rw [readList, exists_bind_eq_ok_iff,
      exists_readItems_iff hn (by omega) fun j hmem => hj.item hmem]
    constructor
    · exact .array
    · intro h
      cases h with
      | array each => exact each
      | single field => cases field
  · rw [readList_single fun items h => hitems ⟨items, h⟩, exists_bind_eq_ok_iff,
      hn j _ hweight hj]
    constructor
    · exact .single
    · intro h
      cases h with
      | array => exact absurd ⟨_, rfl⟩ hitems
      | single field => exact field

theorem declaresField_iff :
    declaresField ms = true ↔ ∃ name, Entries.get? "type" ms = some (.string name) := by
  rw [declaresField]
  split
  · next name h => simp [h]
  · next h => simpa using h

theorem exists_readEntry_field_iff (hn : Recognised n) (hweight : j.weight < n)
    (hj : j.WellFormed) : (∃ f, readEntry node j = .ok (.field f)) ↔ FieldDeclaration j := by
  cases j with
  | object ms =>
    rw [← hn _ node hweight hj, readEntry]
    cases hfield : declaresField ms with
    | true => simp [bind_eq_ok_iff]
    | false =>
      have hnone : ¬ ∃ f, readFieldAt node (.object ms) = .ok f := by
        rw [hn _ node hweight hj]
        intro h
        cases h with
        | mk type => exact Bool.noConfusion (hfield.symm.trans (declaresField_iff.mpr ⟨_, type⟩))
      simpa [bind_eq_ok_iff] using hnone
  | _ =>
    rw [readEntry_of_members?_eq_none rfl]
    exact iff_of_false (by simp) (by rintro ⟨⟩)

/-- An entry can be read if it can be read as a field or as a nested mapping. -/
theorem exists_readEntry_iff_of
    (hfield : (∃ f, readEntry node j = .ok (.field f)) ↔ FieldDeclaration j)
    (hnested : (∃ es, readEntry node j = .ok (.nested es)) ↔ NestedDeclaration j) :
    (∃ e, readEntry node j = .ok e) ↔ EntryDeclaration j := by
  constructor
  · rintro ⟨e, he⟩
    cases e with
    | field f => exact .field (hfield.mp ⟨f, he⟩)
    | nested es => exact .nested (hnested.mp ⟨es, he⟩)
  · intro h
    cases h with
    | field declaration =>
      obtain ⟨f, hf⟩ := hfield.mpr declaration
      exact ⟨_, hf⟩
    | nested declaration =>
      obtain ⟨es, hes⟩ := hnested.mpr declaration
      exact ⟨_, hes⟩

theorem exists_readEntry_nested_iff (hn : Recognised n) :
    ∀ {j node}, j.weight < n → j.WellFormed →
      ((∃ es, readEntry node j = .ok (.nested es)) ↔ NestedDeclaration j) := by
  intro j
  induction hw : j.weight using Nat.strongRecOn generalizing j with
  | ind w ih =>
    intro node hweight hj
    cases j with
    | object ms =>
      rw [readEntry]
      cases hfield : declaresField ms with
      | true =>
        obtain ⟨name, htype⟩ := declaresField_iff.mp hfield
        refine iff_of_false (by simp [bind_eq_ok_iff]) ?_
        rintro ⟨untyped, -⟩
        exact untyped name htype
      | false =>
        have huntyped : ∀ name, Entries.get? "type" ms ≠ some (.string name) := by
          intro name htype
          exact Bool.noConfusion (hfield.symm.trans (declaresField_iff.mpr ⟨name, htype⟩))
        have hentries : (∃ es, readEntries node ms = .ok es) ↔
            ∀ key i, (key, i) ∈ ms → EntryDeclaration i := by
          rw [readEntries_eq_traverse, exists_map_eq_ok_iff, Entries.traverse_ok_iff]
          refine forall_congr' fun key => forall_congr' fun i => imp_congr_right fun hi => ?_
          have hle := Value.weight_le_of_mem_members hi
          rw [Json.weight] at hw
          exact exists_readEntry_iff_of
            (exists_readEntry_field_iff hn (by omega) (hj.member hi))
            (ih i.weight (by omega) rfl (by omega) (hj.member hi))
        constructor
        · intro hes
          exact .mk huntyped (hentries.mp (by simpa [bind_eq_ok_iff] using hes))
        · rintro ⟨-, entries⟩
          simpa [bind_eq_ok_iff] using hentries.mpr entries
    | _ =>
      rw [readEntry_of_members?_eq_none rfl]
      exact iff_of_false (by simp) (by rintro ⟨⟩)

theorem exists_readEntry_iff (hn : Recognised n) (hweight : j.weight < n) (hj : j.WellFormed) :
    (∃ e, readEntry node j = .ok e) ↔ EntryDeclaration j :=
  exists_readEntry_iff_of (exists_readEntry_field_iff hn hweight hj)
    (exists_readEntry_nested_iff hn hweight hj)

theorem exists_readNested_iff (hn : Recognised n) (hweight : j.weight < n) (hj : j.WellFormed) :
    (∃ f, readNested node (some j) = .ok f) ↔ NestedDeclaration j := by
  have hnested : (∃ es, readEntry (node.child "schema") j = .ok (.nested es)) ↔
      NestedDeclaration j := exists_readEntry_nested_iff hn hweight hj
  simp only [← hnested, readNested, bind_eq_ok_iff]
  constructor
  · rintro ⟨f, entry, hentry, hf⟩
    cases entry with
    | field => cases hf
    | nested es => exact ⟨es, hentry⟩
  · rintro ⟨es, hes⟩
    exact ⟨_, _, hes, rfl⟩

/-- One declaration, if the ones within it are recognised. -/
theorem exists_readField_iff_fieldDeclaration (hn : Recognised n)
    (hweight : Json.weightMembers ms < n) (hj : (Json.object ms).WellFormed) :
    (∃ f, readField (.object ms) = .ok f) ↔ FieldDeclaration (.object ms) := by
  have hdistinct := hj.distinct
  have hmember : ∀ {key i}, (key, i) ∈ ms → i.weight < n ∧ i.WellFormed := by
    intro key i hi
    have := Value.weight_le_of_mem_members hi
    exact ⟨by omega, hj.member hi⟩
  have hfields : (∃ f, readList [] (Entries.get? "fields" ms) = .ok f) ↔
      ∀ i, ("fields", i) ∈ ms → CandidatesDeclaration i :=
    exists_read_get?_iff hdistinct ⟨_, rfl⟩ fun i hi =>
      exists_readList_iff hn (hmember hi).1 (hmember hi).2
  have hschema : (∃ f, readNested [] (Entries.get? "schema" ms) = .ok f) ↔
      ∀ i, ("schema", i) ∈ ms → NestedDeclaration i :=
    exists_read_get?_iff hdistinct ⟨_, rfl⟩ fun i hi =>
      exists_readNested_iff hn (hmember hi).1 (hmember hi).2
  rw [exists_readField_iff hdistinct]
  constructor
  · rintro ⟨f, hf, hdefault⟩
    obtain ⟨typeName, htype, base, hbase, hadmitted, -⟩ :=
      (readField_erase_default_eq_ok_iff hdistinct).mp hf
    obtain ⟨hknown, hlist, hdict⟩ := exists_readBase_iff.mp ⟨base, hbase⟩
    refine .mk htype hknown ?_ (fun h => hfields.mp (hlist h)) (fun h => hschema.mp (hdict h))
      fun i hi => ⟨f, hf, hdefault i hi⟩
    intro option i hi hoption
    exact (admits_iff (suits_of_readBase hbase) (hmember hi).2.inRange hoption).mp
      (hadmitted option i hi)
  · intro h
    cases h with
    | @mk _ typeName type known options fields schema default =>
      obtain ⟨base, hbase⟩ := exists_readBase_iff.mpr
        ⟨known, fun h => hfields.mpr (fields h), fun h => hschema.mpr (schema h)⟩
      have hadmitted : ∀ option i, (option, i) ∈ ms →
          Admits typeName base.kind option i = true := by
        intro option i hi
        by_cases hoption : option = "type"
        · subst hoption
          rfl
        · exact (admits_iff (suits_of_readBase hbase) (hmember hi).2.inRange hoption).mpr
            (options option i hi hoption)
      have hrest : readField (.object (Entries.erase "default" ms)) = .ok (base.withMembers ms) :=
        (readField_erase_default_eq_ok_iff hdistinct).mpr
          ⟨typeName, type, base, hbase, hadmitted, rfl⟩
      refine ⟨_, hrest, fun i hi => ?_⟩
      obtain ⟨f, hf, hv⟩ := default i hi
      cases hf.symm.trans hrest
      exact hv

theorem recognised (n : Nat) : Recognised n := by
  induction n with
  | zero =>
    intro j node hweight
    omega
  | succ n hn =>
    intro j node hweight hj
    cases j with
    | object ms =>
      rw [Json.weight] at hweight
      rw [← exists_readField_iff_fieldDeclaration hn (by omega) hj]
      exact (readsAlike _ _ _ node [] (Nat.lt_succ_self _) hj.proper.reordered).ok_iff
    | _ =>
      rw [readFieldAt_of_members?_eq_none rfl]
      exact iff_of_false (by simp) (by rintro ⟨⟩)

theorem exists_ofDeclaration_iff (hj : j.WellFormed) :
    (∃ s, Schema.ofDeclaration j = .ok s) ↔ SchemaDeclaration j := by
  cases j with
  | object ms =>
    have htext : ∀ i : Json, i.string?.isSome = true ↔ ∃ s, i = .string s :=
      fun _ => holds_text_iff.symm
    have hentry : ∀ key i, (key, i) ∈ ms →
        ((∃ e, readEntry [key] i = .ok e) ↔ EntryDeclaration i) := fun key i hi =>
      exists_readEntry_iff (recognised _) (Nat.lt_succ_self _) (hj.member hi)
    rw [Schema.ofDeclaration_object_ok_iff hj.distinct, Entries.traverse_ok_iff]
    simp only [Schema.mem_entryMembers_iff, Schema.isHeading_iff, Schema.isHeading_eq_false_iff,
      htext]
    constructor
    · rintro ⟨headings, entries⟩
      exact .mk headings fun key i hi htitle hdescription =>
        (hentry key i hi).mp (entries key i ⟨hi, htitle, hdescription⟩)
    · rintro ⟨headings, entries⟩
      exact ⟨headings, fun key i h =>
        (hentry key i h.1).mpr (entries key i h.1 h.2.1 h.2.2)⟩
  | _ => exact iff_of_false (by simp [Schema.ofDeclaration]) (by rintro ⟨⟩)

/-- An object among the entries of a schema declares a field exactly if it has a text under
`type`. -/
theorem exists_field_iff_of_readEntry {e : SchemaEntry} (h : readEntry node (.object ms) = .ok e) :
    (∃ f, e = .field f) ↔ ∃ name, Entries.get? "type" ms = some (.string name) := by
  rw [← declaresField_iff]
  rw [readEntry] at h
  cases hfield : declaresField ms with
  | true =>
    rw [hfield, if_pos rfl] at h
    obtain ⟨f, -, hf⟩ := bind_eq_ok_iff.mp h
    cases hf
    exact iff_of_true ⟨f, rfl⟩ rfl
  | false =>
    rw [hfield, if_neg Bool.false_ne_true] at h
    obtain ⟨es, -, hes⟩ := bind_eq_ok_iff.mp h
    cases hes
    exact iff_of_false (by simp) Bool.false_ne_true

/-- Exactly the declarations of the grammar can be read, and entries are told apart by whether they
have a text under `type`. -/
theorem read_iff_grammar :
    (∀ j : Json, j.WellFormed →
      ((∃ f, readField j = .ok f) ↔ FieldDeclaration j) ∧
        ((∃ s, Schema.ofDeclaration j = .ok s) ↔ SchemaDeclaration j)) ∧
      ∀ node members e, readEntry node (.object members) = .ok e →
        ((∃ f, e = .field f) ↔ ∃ name, Entries.get? "type" members = some (.string name)) := by
  refine ⟨fun j hj => ⟨?_, exists_ofDeclaration_iff hj⟩, ?_⟩
  · exact recognised _ j [] (Nat.lt_succ_self _) hj
  · exact fun node members e => exists_field_iff_of_readEntry

/-! ### Scores -/

/-- A number with a default of its own. -/
def scoreDeclaration : Json :=
  .object [("min", .integer 0), ("type", .string "int"), ("default", .integer 5)]

def scoresDeclaration : Json :=
  .object [("type", .string "list"), ("fields", .array [scoreDeclaration]),
    ("max_len", .integer 3)]

theorem wellFormed_scores : scoresDeclaration.WellFormed where
  inRange := by decide
  proper := by decide

theorem fieldDeclaration_score : FieldDeclaration scoreDeclaration := by
  refine .mk rfl (by decide) ?_ (fun h => absurd h (by decide)) (fun h => absurd h (by decide)) ?_
  · simp only [List.mem_cons, Prod.mk.injEq, List.not_mem_nil, or_false]
    rintro _ _ (⟨rfl, rfl⟩ | ⟨rfl, rfl⟩ | ⟨rfl, rfl⟩) hoption
    · exact ⟨.number, by decide, .inl ⟨0, rfl⟩⟩
    · exact absurd rfl hoption
    · exact ⟨.value, by decide, trivial⟩
  · simp only [List.mem_cons, Prod.mk.injEq, List.not_mem_nil, or_false]
    rintro _ (⟨hkey, -⟩ | ⟨hkey, -⟩ | ⟨-, rfl⟩)
    · exact absurd hkey (by decide)
    · exact absurd hkey (by decide)
    · refine ⟨Field.int.withMin (.int 0), ?_, .int 5, rfl⟩
      rw [readField, readFieldAt_eq]
      rfl

theorem fieldDeclaration_scores : FieldDeclaration scoresDeclaration := by
  refine .mk rfl (by decide) ?_ (fun _ => ?_) (fun h => absurd h (by decide)) ?_
  · simp only [List.mem_cons, Prod.mk.injEq, List.not_mem_nil, or_false]
    rintro _ _ (⟨rfl, rfl⟩ | ⟨rfl, rfl⟩ | ⟨rfl, rfl⟩) hoption
    · exact absurd rfl hoption
    · exact ⟨.value, by decide, trivial⟩
    · exact ⟨.length, by decide, 3, by decide, rfl⟩
  · simp only [List.mem_cons, Prod.mk.injEq, List.not_mem_nil, or_false]
    rintro _ (⟨hkey, -⟩ | ⟨-, rfl⟩ | ⟨hkey, -⟩)
    · exact absurd hkey (by decide)
    · exact .array fun j hj => List.mem_singleton.mp hj ▸ fieldDeclaration_score
    · exact absurd hkey (by decide)
  · simp

/-- The declaration of a field is none of a schema, since the name of its type is no entry. -/
theorem not_schemaDeclaration_scores : ¬ SchemaDeclaration scoresDeclaration := by
  intro h
  cases h with
  | mk headings entries =>
    have htype := entries "type" (.string "list") (by simp) (by decide) (by decide)
    cases htype with
    | field declaration => cases declaration
    | nested declaration => cases declaration

theorem read_iff_grammar_scores :
    (∃ f, readField scoresDeclaration = .ok f) ∧
      (¬ ∃ s, Schema.ofDeclaration scoresDeclaration = .ok s) ∧
      ((∃ f, SchemaEntry.nested [] = .field f) ↔
        ∃ name, Entries.get? "type" [] = some (Json.string name)) := by
  obtain ⟨hfield, hschema⟩ := read_iff_grammar.1 scoresDeclaration wellFormed_scores
  refine ⟨hfield.mpr fieldDeclaration_scores, ?_, ?_⟩
  · exact fun h => not_schemaDeclaration_scores (hschema.mp h)
  · refine read_iff_grammar.2 [] [] (.nested []) ?_
    rw [readEntry, if_neg (by decide), readEntries]
    rfl

end TypedDocument.Declaration
