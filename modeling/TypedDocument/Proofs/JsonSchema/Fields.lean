import TypedDocument.Proofs.Document.JsonForm
import TypedDocument.Proofs.JsonSchema.Keywords
import TypedDocument.Proofs.Schema.Document

/-!
# The exports of fields

A field is exported as the keywords of its kind and notes that nothing is checked against. For the
kinds that are exported without loss, what validation accepts is fine in its encoded form: the type
of the JSON form is the one exported for the kind, bounds and lengths carry over, and days and times
are written in the form of their patterns. The schemas of such fields are usable.
-/

namespace TypedDocument

/-- Bounds that are exported as the integers they are. -/
structure Bounds.AreIntegers (b : Bounds) : Prop where
  min : ∀ n, b.min = some n → ∃ i, n = .int i
  max : ∀ n, b.max = some n → ∃ i, n = .int i

/-- A kind that is exported without loss: no pattern, no bounds of floats, at most one candidate,
and no literal name that the pattern for integer keys takes for an integer it is not. -/
def FieldKind.Exportable : FieldKind → Prop
  | int b => b.AreIntegers
  | long b => b.AreIntegers
  | float b => b.min = none ∧ b.max = none
  | text r => r.pattern = none
  | list candidates _ _ => candidates.length ≤ 1
  | dict d => ∀ name f, (SchemaKey.name name, f) ∈ d → ¬ IsOverlong name
  | _ => True

/-- A day in a year that is written with four digits and no sign. -/
def Date.HasPlainYear (d : Date) : Prop := 0 ≤ d.year ∧ d.year ≤ 9999

/-- What a kind writes of a value in the form that is exported: days in years of four digits, and
no keys that look like integers of more than 64 bits. -/
def FieldKind.WritesPlainly : FieldKind → Value → Prop
  | date, .date d => d.HasPlainYear
  | date, .dateTime t => t.date.HasPlainYear
  | dateTime, .dateTime t => t.date.HasPlainYear
  | dict _, .map es => ∀ key ∈ Entries.keys es, ¬ IsOverlong key
  | _, _ => True

variable {f : Field} {j : Json}

open JsonSchema

/-! ## Fields and their keywords -/

/-- A keyword that is written only if a limit is set has a property if it has it for the limit. -/
@[simp] theorem JsonSchema.forall_mem_limit_iff {α : Type} {make : α → Keyword} {a : Option α}
    {p : Keyword → Prop} : (∀ k ∈ limit make a, p k) ↔ ∀ b, a = some b → p (make b) := by
  cases a <;> simp [limit]

/-- What is noted about a field: its title, its description and its default. -/
theorem JsonSchema.mem_notes {k : Keyword} (h : k ∈ notes f) :
    (∃ s, k = .title s) ∨ (∃ s, k = .description s) ∨ ∃ i, k = .default i := by
  simp only [notes, limit, List.mem_append, Option.mem_toList, Option.map_eq_some_iff] at h
  rcases h with (⟨s, -, rfl⟩ | ⟨s, -, rfl⟩) | h
  · exact .inl ⟨s, rfl⟩
  · exact .inr (.inl ⟨s, rfl⟩)
  · split at h
    · obtain ⟨i, -, rfl⟩ := Option.map_eq_some_iff.mp (Option.mem_toList.mp h)
      exact .inr (.inr ⟨i, rfl⟩)
    · cases h

/-- Only the kind of a field and whether it is nullable count. -/
theorem Field.allows_iff : f.jsonSchema.Allows j ↔
    ∀ k ∈ FieldKind.exportKeywords f.nullable f.kind, k.Allows j := by
  cases f with
  | mk kind options default =>
    rw [jsonSchema, allows_all_iff]
    simp only [List.mem_append]
    constructor
    · exact fun h k hk => h k (.inl hk)
    · rintro h k (hk | hk)
      · exact h k hk
      · rcases mem_notes hk with ⟨s, rfl⟩ | ⟨s, rfl⟩ | ⟨i, rfl⟩ <;> exact fun _ => rfl

/-- Null is fine for every field that is nullable. -/
theorem letsNullPass_of_mem_exportKeywords (kind : FieldKind) :
    ∀ k ∈ FieldKind.exportKeywords true kind, letsNullPass k = true := by
  have htyped : ∀ name, letsNullPass (typed true name) = true := by simp [typed, letsNullPass]
  have hbounds : ∀ b, ∀ k ∈ boundKeywords b, letsNullPass k = true := by
    intro b
    exact List.forall_mem_append.mpr
      ⟨forall_mem_limit_iff.mpr fun _ _ => rfl, forall_mem_limit_iff.mpr fun _ _ => rfl⟩
  cases kind with
  | int b => exact List.forall_mem_cons.mpr ⟨htyped _, hbounds b⟩
  | long b => exact List.forall_mem_cons.mpr ⟨htyped _, hbounds b⟩
  | float b => exact List.forall_mem_cons.mpr ⟨htyped _, hbounds b⟩
  | text r =>
    obtain ⟨length, minLen, maxLen, pattern⟩ := r
    cases length <;> cases minLen <;> cases maxLen <;> cases pattern <;>
      simp [FieldKind.exportKeywords, ruleKeywords, limit, typed, letsNullPass]
  | list candidates least most =>
    have hcandidates : ∀ ss, ∀ k ∈ candidateKeywords ss, letsNullPass k = true := by
      intro ss
      rcases ss with _ | ⟨s, _ | ⟨t, rest⟩⟩ <;> simp [candidateKeywords, letsNullPass]
    refine List.forall_mem_cons.mpr ⟨htyped _, List.forall_mem_append.mpr
      ⟨List.forall_mem_append.mpr ⟨?_, forall_mem_limit_iff.mpr fun _ _ => rfl⟩, hcandidates _⟩⟩
    split <;> simp [letsNullPass]
  | _ => simp [FieldKind.exportKeywords, typed, letsNullPass, memberKeyword]

theorem Field.allows_null (h : f.nullable = true) : f.jsonSchema.Allows .null := by
  rw [allows_iff, h]
  intro k hk
  exact JsonSchema.allows_null (letsNullPass_of_mem_exportKeywords f.kind k hk)

/-! ## Single values -/

section Scalars

variable {nullable : Bool}

theorem allows_boundKeywords {b : Bounds} {i : Int64} (hb : b.AreIntegers)
    (h : b.Admits (.int i)) : ∀ k ∈ boundKeywords b, k.Allows (.integer i.toInt) := by
  have hlt : ∀ {a c : Int64}, Number.lt (.int a) (.int c) = false → c.toInt ≤ a.toInt := by
    intro a c hac
    simp only [Number.lt, Number.compare?, beq_eq_false_iff_ne, ne_eq, Option.some.injEq,
      Int.compare_eq_lt] at hac
    omega
  refine List.forall_mem_append.mpr ⟨forall_mem_limit_iff.mpr ?_, forall_mem_limit_iff.mpr ?_⟩
  · intro n hn
    obtain ⟨low, rfl⟩ := hb.min n hn
    exact allows_minimum (hlt (h.min _ hn).2)
  · intro n hn
    obtain ⟨high, rfl⟩ := hb.max n hn
    exact allows_maximum (hlt (h.max _ hn).2)

theorem allows_ruleKeywords {r : TextRules} {s : String} (hr : r.pattern = none)
    (h : r.Admits s) : ∀ k ∈ ruleKeywords r, k.Allows (.string s) := by
  rw [ruleKeywords, hr]
  refine List.forall_mem_append.mpr ⟨?_, forall_mem_limit_iff.mpr (by simp)⟩
  cases hlength : r.length with
  | some n =>
    have hn := h.length n hlength
    exact List.forall_mem_cons.mpr ⟨allows_minLength (Nat.le_of_eq hn.symm),
      List.forall_mem_singleton.mpr (allows_maxLength (Nat.le_of_eq hn))⟩
  | none =>
    refine List.forall_mem_append.mpr ⟨forall_mem_limit_iff.mpr ?_, forall_mem_limit_iff.mpr ?_⟩
    · exact fun n hn => allows_minLength (h.minLen hlength n hn)
    · exact fun n hn => allows_maxLength (h.maxLen hlength n hn)

theorem Date.matches_text {d : Date} (h : d.HasPlainYear) :
    Layout.date.regex.matchesWithin d.text = true :=
  Layout.matchesWithin_regex_iff.mpr (Layout.date.form_write (LayoutNumbers.inRange_ofDate d) h)

theorem DateTime.matches_text {t : DateTime} (h : t.date.HasPlainYear) :
    Layout.dateTime.regex.matchesWithin t.text = true :=
  Layout.matchesWithin_regex_iff.mpr
    (Layout.dateTime.form_write (LayoutNumbers.inRange_ofDateTime t) h)

@[simp] theorem Time.matches_text (t : Time) : Layout.time.regex.matchesWithin t.text = true :=
  Layout.matchesWithin_regex_iff.mpr
    (Layout.time.form_write (LayoutNumbers.inRange_ofTime t) ⟨Int.le_refl 0, by
      show (0 : Int) ≤ 9999
      decide⟩)

/-- A text in the form of a pattern is fine for a field that is exported as that pattern. -/
theorem allows_written {source s : String} {r : Regex} (hsource : patternRegex? source = some r)
    (h : r.matchesWithin s = true) :
    ∀ k ∈ [typed nullable "string", .pattern source], k.Allows (.string s) :=
  List.forall_mem_cons.mpr
    ⟨allows_typed rfl, List.forall_mem_singleton.mpr (allows_pattern hsource h)⟩

/-- The declaration of a field is an object with a type. -/
theorem type_mem_keys_describe {g : Field} (h : (Value.ofJson g.describe).toJson = .ok j) :
    ∃ ms, j = .object ms ∧ "type" ∈ Entries.keys ms := by
  obtain ⟨kind, options, default⟩ := g
  simp only [Field.describe, Field.declaration, List.cons_append, Value.ofJson,
    Value.ofJsonMembers, Value.toJson_map_eq_ok_iff, Value.toJsonMembers_cons_eq_ok_iff] at h
  obtain ⟨_, ⟨i, -, ms, -, rfl⟩, rfl⟩ := h
  exact ⟨_, rfl, List.mem_cons_self⟩

/-- A value of the type and within the rules of a kind is fine in its encoded form. -/
theorem Value.allows_scalar {v w : Value} (hv : v.isContainer = false) (present : v ≠ .null)
    (hexport : f.kind.Exportable) (haccepts : f.kind.accepts v = true)
    (hrules : f.kind.RulesHold v) (hplain : f.kind.WritesPlainly v) (hw : v.encode f = .ok w)
    (hj : w.toJson = .ok j) : f.jsonSchema.Allows j := by
  obtain ⟨kind, options, default⟩ := f
  rw [Field.allows_iff]
  simp only [Field.kind, Field.nullable, Field.options] at *
  cases kind with
  | any => simp [FieldKind.exportKeywords]
  | field =>
    cases v with
    | field g =>
      cases hw
      obtain ⟨ms, rfl, htype⟩ := type_mem_keys_describe hj
      exact List.forall_mem_cons.mpr ⟨allows_typed rfl, List.forall_mem_singleton.mpr
        (allows_required (List.forall_mem_singleton.mpr htype))⟩
    | _ => cases haccepts
  | null =>
    cases v with
    | null => exact absurd rfl present
    | _ => cases haccepts
  | bool =>
    cases v with
    | bool b =>
      cases hw
      cases hj
      exact List.forall_mem_singleton.mpr (allows_typed rfl)
    | _ => cases haccepts
  | int b =>
    cases v with
    | int i =>
      cases hw
      cases hj
      rw [← Int32.toInt_toInt64]
      exact List.forall_mem_cons.mpr ⟨allows_typed rfl, allows_boundKeywords hexport hrules⟩
    | _ => cases haccepts
  | long b =>
    cases v with
    | long i =>
      cases hw
      cases hj
      exact List.forall_mem_cons.mpr ⟨allows_typed rfl, allows_boundKeywords hexport hrules⟩
    | _ => cases haccepts
  | float b =>
    cases v with
    | float x =>
      cases hw
      simp only [Field.kind, FieldKind.encodeScalar, toJson] at hj
      split at hj
      · cases hj
        simp only [FieldKind.exportKeywords, boundKeywords, limit, hexport.1, hexport.2]
        exact List.forall_mem_singleton.mpr (allows_typed rfl)
      · cases hj
    | _ => cases haccepts
  | text r =>
    cases v with
    | text s =>
      cases hw
      cases hj
      exact List.forall_mem_cons.mpr ⟨allows_typed rfl, allows_ruleKeywords hexport hrules⟩
    | _ => cases haccepts
  | dateTime =>
    cases v with
    | dateTime t =>
      cases hw
      cases hj
      exact allows_written patternRegex?_dateTimePattern (DateTime.matches_text hplain)
    | _ => cases haccepts
  | date =>
    cases v with
    | date d =>
      cases hw
      cases hj
      exact allows_written patternRegex?_datePattern (Date.matches_text hplain)
    | dateTime t =>
      cases hw
      cases hj
      exact allows_written patternRegex?_datePattern (Date.matches_text hplain)
    | _ => cases haccepts
  | time =>
    cases v with
    | time t =>
      cases hw
      cases hj
      exact allows_written patternRegex?_timePattern t.matches_text
    | _ => cases haccepts
  | list candidates least most =>
    cases v with
    | list items => cases hv
    | _ => cases haccepts
  | dict d =>
    cases v with
    | map es => cases hv
    | _ => cases haccepts

end Scalars

/-! ## Lists and mappings -/

theorem Field.allows_of_any (hk : f.kind = .any) : f.jsonSchema.Allows j := by
  rw [allows_iff, hk]
  simp [FieldKind.exportKeywords]

theorem Field.allows_array {candidates : List Field} {least : Nat} {most : Option Nat}
    {js : List Json} (hk : f.kind = .list candidates least most) (hleast : least ≤ js.length)
    (hmost : ∀ n, most = some n → js.length ≤ n) (hcandidates : candidates.length ≤ 1)
    (hitems : ∀ c, candidates = [c] → ∀ j ∈ js, c.jsonSchema.Allows j) :
    f.jsonSchema.Allows (.array js) := by
  rw [allows_iff, hk]
  refine List.forall_mem_cons.mpr ⟨allows_typed rfl, List.forall_mem_append.mpr
    ⟨List.forall_mem_append.mpr ⟨?_, ?_⟩, ?_⟩⟩
  · split
    · exact List.forall_mem_singleton.mpr (allows_minItems hleast)
    · simp
  · exact forall_mem_limit_iff.mpr fun n hn => allows_maxItems (hmost n hn)
  · rcases candidates with _ | ⟨c, _ | ⟨_, _⟩⟩
    · simp [exportAll, candidateKeywords]
    · exact List.forall_mem_singleton.mpr (allows_items (hitems c rfl))
    · simp at hcandidates

theorem Field.allows_object {d : Dict} {ms : List (String × Json)} (hk : f.kind = .dict d)
    (h : (memberKeyword d (Dict.exportEntries d)).Allows (.object ms)) :
    f.jsonSchema.Allows (.object ms) := by
  rw [allows_iff, hk]
  exact List.forall_mem_cons.mpr ⟨allows_typed rfl, List.forall_mem_singleton.mpr h⟩

/-! ## Usable schemas -/

namespace JsonSchema

@[simp] theorem areUsable_eq_true_iff {ks : List Keyword} :
    areUsable ks = true ↔ ∀ k ∈ ks, isUsableKeyword k = true := by
  induction ks with
  | nil => simp [areUsable]
  | cons k rest ih => simp [areUsable, ih]

@[simp] theorem areUsableProperties_eq_true_iff {properties : List (String × JsonSchema)} :
    areUsableProperties properties = true ↔
      ∀ name s, (name, s) ∈ properties → isUsable s = true := by
  induction properties with
  | nil => simp [areUsableProperties]
  | cons p rest ih =>
    obtain ⟨name, s⟩ := p
    rw [areUsableProperties, Bool.and_eq_true, ih, Entries.forall_mem_cons_iff]

theorem isUsable_jsonSchema_iff : isUsable f.jsonSchema = true ↔
    ∀ k ∈ FieldKind.exportKeywords f.nullable f.kind, isUsableKeyword k = true := by
  cases f with
  | mk kind options default =>
    rw [Field.jsonSchema, isUsable, areUsable_eq_true_iff]
    simp only [List.mem_append]
    constructor
    · exact fun h k hk => h k (.inl hk)
    · rintro h k (hk | hk)
      · exact h k hk
      · rcases mem_notes hk with ⟨s, rfl⟩ | ⟨s, rfl⟩ | ⟨i, rfl⟩ <;> rfl

theorem isUsable_pattern {source : String} {r : Regex} (h : patternRegex? source = some r) :
    isUsableKeyword (.pattern source) = true := by
  rw [isUsableKeyword, h, Option.isSome_some]

theorem isUsable_boundKeywords {b : Bounds} (hb : b.AreIntegers) :
    ∀ k ∈ boundKeywords b, isUsableKeyword k = true := by
  refine List.forall_mem_append.mpr ⟨forall_mem_limit_iff.mpr ?_, forall_mem_limit_iff.mpr ?_⟩
  · intro n hn
    obtain ⟨low, rfl⟩ := hb.min n hn
    rfl
  · intro n hn
    obtain ⟨high, rfl⟩ := hb.max n hn
    rfl

/-- The schemas for the members of a dict are those of its fields, and the one nothing meets. -/
theorem isUsable_memberKeyword {d : Dict}
    (h : ∀ key g, (key, g) ∈ d → isUsable g.jsonSchema = true) :
    isUsableKeyword (memberKeyword d (Dict.exportEntries d)) = true := by
  have hget : ∀ {key s}, Entries.get? key (Dict.exportEntries d) = some s → isUsable s = true := by
    intro key s hs
    rw [Dict.get?_exportEntries] at hs
    obtain ⟨g, hg, rfl⟩ := Option.map_eq_some_iff.mp hs
    exact h key g (Entries.mem_of_get?_eq_some hg)
  have hproperties : areUsableProperties (namedSchemas (Dict.exportEntries d)) = true := by
    rw [areUsableProperties_eq_true_iff]
    intro name s hs
    obtain ⟨g, hg, rfl⟩ := Dict.mem_exportEntries (mem_namedSchemas hs)
    exact h _ g hg
  have hpatterns : areUsablePatterns (keyPatterns (Dict.exportEntries d)) = true := by
    rw [keyPatterns]
    split
    · next hs => simp [areUsablePatterns, hget hs]
    · rfl
    · rfl
  have hadditional : isUsable
      ((Entries.get? (.type .text) (Dict.exportEntries d)).getD .never) = true := by
    cases hs : Entries.get? (.type .text) (Dict.exportEntries d) with
    | none => rfl
    | some s => exact hget hs
  show (areUsableProperties _ && areUsablePatterns _ && isUsable _) = true
  rw [Bool.and_eq_true, Bool.and_eq_true]
  exact ⟨⟨hproperties, hpatterns⟩, hadditional⟩

/-- The bounds of exportable fields are numbers, and they have no patterns of their own. -/
theorem isUsable_jsonSchema (f : Field) (hf : f.Everywhere FieldKind.Exportable) :
    isUsable f.jsonSchema = true := by
  induction f using Field.partInduction with
  | step f ihlist ihdict =>
    rw [isUsable_jsonSchema_iff]
    have hkind := hf.kind
    cases hk : f.kind with
    | int b =>
      rw [hk] at hkind
      exact List.forall_mem_cons.mpr ⟨rfl, isUsable_boundKeywords hkind⟩
    | long b =>
      rw [hk] at hkind
      exact List.forall_mem_cons.mpr ⟨rfl, isUsable_boundKeywords hkind⟩
    | float b =>
      rw [hk] at hkind
      exact List.forall_mem_cons.mpr ⟨rfl, isUsable_boundKeywords
        ⟨fun n hn => by simp [hkind.1] at hn, fun n hn => by simp [hkind.2] at hn⟩⟩
    | text r =>
      rw [hk] at hkind
      refine List.forall_mem_cons.mpr ⟨rfl, List.forall_mem_append.mpr ⟨?_, ?_⟩⟩
      · split
        · simp [isUsableKeyword]
        · exact List.forall_mem_append.mpr
            ⟨forall_mem_limit_iff.mpr fun _ _ => rfl, forall_mem_limit_iff.mpr fun _ _ => rfl⟩
      · exact forall_mem_limit_iff.mpr fun p hp => by cases hkind.symm.trans hp
    | list candidates least most =>
      rw [hk] at hkind
      refine List.forall_mem_cons.mpr ⟨rfl, List.forall_mem_append.mpr
        ⟨List.forall_mem_append.mpr ⟨?_, forall_mem_limit_iff.mpr fun _ _ => rfl⟩, ?_⟩⟩
      · split <;> simp [isUsableKeyword]
      · rcases candidates with _ | ⟨c, _ | ⟨_, _⟩⟩
        · simp [Field.exportAll, candidateKeywords]
        · exact List.forall_mem_singleton.mpr
            (ihlist _ _ _ hk c List.mem_cons_self (hf.candidate hk List.mem_cons_self))
        · simp [FieldKind.Exportable] at hkind
    | dict d =>
      exact List.forall_mem_cons.mpr ⟨rfl, List.forall_mem_singleton.mpr
        (isUsable_memberKeyword fun key g hg => ihdict d hk key g hg (hf.dict hk key g hg))⟩
    | dateTime =>
      exact List.forall_mem_cons.mpr
        ⟨rfl, List.forall_mem_singleton.mpr (isUsable_pattern patternRegex?_dateTimePattern)⟩
    | date =>
      exact List.forall_mem_cons.mpr
        ⟨rfl, List.forall_mem_singleton.mpr (isUsable_pattern patternRegex?_datePattern)⟩
    | time =>
      exact List.forall_mem_cons.mpr
        ⟨rfl, List.forall_mem_singleton.mpr (isUsable_pattern patternRegex?_timePattern)⟩
    | _ => simp [FieldKind.exportKeywords, typed, isUsableKeyword]

end JsonSchema

end TypedDocument
