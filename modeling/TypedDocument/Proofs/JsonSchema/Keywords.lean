import TypedDocument.Proofs.Entries
import TypedDocument.Proofs.JsonSchema.Patterns

/-!
# Values a schema has no complaint about

A schema has no complaint about a value if none of its keywords has one. Keywords about texts,
numbers, lists or objects have none about values of other types, so a null is only held against
the type. An object is fine if it has the members it must have and each of its members is fine.
For the fields of a dict the member of a key is checked by the export of the field that governs
the key, and by nothing else.
-/

namespace TypedDocument

/-- A keyword has no complaint about a value, at whatever node it stands. -/
def Keyword.Allows (k : Keyword) (j : Json) : Prop :=
  ∀ node, JsonSchema.keywordViolations k node j = []

/-- A schema has no complaint about a value. -/
def JsonSchema.Allows (s : JsonSchema) (j : Json) : Prop :=
  ∀ node, JsonSchema.violations s node j = []

namespace JsonSchema

variable {j : Json} {ks : List Keyword}

@[simp] theorem keywordsViolations_eq_nil_iff {node : Pointer} :
    keywordsViolations ks node j = [] ↔ ∀ k ∈ ks, keywordViolations k node j = [] := by
  induction ks with
  | nil => simp [keywordsViolations]
  | cons k rest ih => simp [keywordsViolations, ih]

@[simp] theorem allows_all_iff : (all ks).Allows j ↔ ∀ k ∈ ks, k.Allows j := by
  simp only [Allows, Keyword.Allows, violations, keywordsViolations_eq_nil_iff]
  exact ⟨fun h k hk node => h node k hk, fun h node k hk => h k hk node⟩

/-! ## Single keywords -/

theorem allows_type {names : List String} {name : String} (hname : name ∈ names)
    (hj : hasType j name = true) : (Keyword.type names).Allows j := by
  intro node
  exact if_pos (List.any_eq_true.mpr ⟨name, hname, hj⟩)

theorem allows_typed {nullable : Bool} {name : String} (hj : hasType j name = true) :
    (typed nullable name).Allows j := by
  cases nullable <;> exact allows_type List.mem_cons_self hj

theorem allows_minimum {i low : Int64} (h : low.toInt ≤ i.toInt) :
    (Keyword.minimum (.int low)).Allows (.integer i.toInt) := by
  intro node
  have hlt : (ExactNumber.ofInt i.toInt).lt (.ofInt low.toInt) = false := by
    simp [ExactNumber.lt, ExactNumber.ofInt]
    omega
  simp [keywordViolations, scalarViolations, exactValue?, exactBound, hlt]

theorem allows_maximum {i high : Int64} (h : i.toInt ≤ high.toInt) :
    (Keyword.maximum (.int high)).Allows (.integer i.toInt) := by
  intro node
  have hlt : (ExactNumber.ofInt high.toInt).lt (.ofInt i.toInt) = false := by
    simp [ExactNumber.lt, ExactNumber.ofInt]
    omega
  simp [keywordViolations, scalarViolations, exactValue?, exactBound, hlt]

theorem allows_minLength {n : Nat} {s : String} (h : n ≤ s.length) :
    (Keyword.minLength n).Allows (.string s) :=
  fun _ => if_neg (Nat.not_lt.mpr h)

theorem allows_maxLength {n : Nat} {s : String} (h : s.length ≤ n) :
    (Keyword.maxLength n).Allows (.string s) :=
  fun _ => if_neg (Nat.not_lt.mpr h)

theorem allows_pattern {source s : String} {r : Regex} (hr : patternRegex? source = some r)
    (hs : r.matchesWithin s = true) : (Keyword.pattern source).Allows (.string s) := by
  intro node
  simp only [keywordViolations, scalarViolations, hr, hs, if_true]

theorem allows_minItems {n : Nat} {js : List Json} (h : n ≤ js.length) :
    (Keyword.minItems n).Allows (.array js) :=
  fun _ => if_neg (Nat.not_lt.mpr h)

theorem allows_maxItems {n : Nat} {js : List Json} (h : js.length ≤ n) :
    (Keyword.maxItems n).Allows (.array js) :=
  fun _ => if_neg (Nat.not_lt.mpr h)

theorem allows_items {s : JsonSchema} {js : List Json} (h : ∀ j ∈ js, s.Allows j) :
    (Keyword.items s).Allows (.array js) := by
  intro node
  simp only [keywordViolations, List.flatMap_eq_nil_iff]
  rintro ⟨j, i⟩ hmem
  exact h j (List.fst_mem_of_mem_zipIdx hmem) _

theorem requiredViolations_eq_nil {node : Pointer} {names : List String}
    {ms : List (String × Json)} (h : ∀ name ∈ names, name ∈ Entries.keys ms) :
    requiredViolations node (.object ms) names = [] := by
  simp only [requiredViolations, List.flatMap_eq_nil_iff]
  intro name hname
  exact if_pos (Entries.contains_iff_mem_keys.mpr (h name hname))

theorem allows_required {names : List String} {ms : List (String × Json)}
    (h : ∀ name ∈ names, name ∈ Entries.keys ms) : (Keyword.required names).Allows (.object ms) :=
  fun _ => requiredViolations_eq_nil h

/-- Keywords that let a null pass: those that list it among the types, and most that say nothing
about types. -/
def letsNullPass : Keyword → Bool
  | .type names => names.contains "null"
  | .anyOf _ => false
  | _ => true

theorem allows_null {k : Keyword} (h : letsNullPass k = true) : k.Allows .null := by
  cases k with
  | type names => exact allows_type (List.contains_iff_mem.mp h) rfl
  | anyOf ss => cases h
  | _ => exact fun _ => rfl

/-! ## Members of objects -/

@[simp] theorem unexpected_eq_nil_iff {node : Pointer} {names : List String} :
    unexpected node names = [] ↔ names = [] := by
  cases names with
  | nil => exact iff_of_true rfl rfl
  | cons name rest =>
    cases rest <;> exact iff_of_false (List.cons_ne_nil _ _) (List.cons_ne_nil _ _)

namespace MemberRules

variable {r : MemberRules} {node : Pointer} {ms : List (String × Json)}

theorem uncovered_eq_nil_iff :
    (ms.filter fun (key, _) => r.isUnexpected key) = [] ↔ ∀ e ∈ ms, r.checkers e.1 ≠ [] := by
  simp [List.filter_eq_nil_iff, isUnexpected]

/-- There are no complaints about strangers exactly if every member is checked by something. -/
theorem strangers_eq_nil_iff :
    r.strangers node ms = [] ↔ ∀ e ∈ ms, r.checkers e.1 ≠ [] := by
  rw [← uncovered_eq_nil_iff, strangers]
  generalize List.filter _ ms = uncovered
  split
  · cases uncovered with
    | nil => exact iff_of_true rfl rfl
    | cons e rest => exact iff_of_false (List.cons_ne_nil _ _) (List.cons_ne_nil _ _)
  · rw [unexpected_eq_nil_iff, Entries.keys, List.map_eq_nil_iff]

/-- What the checks of members amount to when exactly one schema applies to each. -/
theorem violations_eq_nil
    (h : ∀ key j, (key, j) ∈ ms → ∃ s, r.checkers key = [JsonSchema.violations s] ∧ s.Allows j) :
    r.violations node (.object ms) = [] := by
  have hstrangers : r.strangers node ms = [] := by
    refine strangers_eq_nil_iff.mpr fun e he => ?_
    obtain ⟨s, hs, -⟩ := h e.1 e.2 he
    rw [hs]
    exact List.cons_ne_nil _ _
  simp only [violations, hstrangers, List.append_nil, List.flatMap_eq_nil_iff]
  rintro ⟨key, j⟩ hmem check hcheck
  obtain ⟨s, hs, hj⟩ := h key j hmem
  rw [hs, List.mem_singleton] at hcheck
  exact hcheck ▸ hj _

end MemberRules

end JsonSchema

/-! ## The members of a dict -/

/-- A text that looks like an integer but is out of the range of 64 bits. -/
def IsOverlong (key : String) : Prop :=
  ∃ i, readInteger? key.toList = some i ∧ fitsInt64 i = false

instance (key : String) : Decidable (IsOverlong key) :=
  decidable_of_iff ((readInteger? key.toList).any (!fitsInt64 ·) = true) (by
    simp [IsOverlong, Option.any_eq_true])

theorem ofKey_eq_integer_iff {key : String} (h : ¬ IsOverlong key) :
    KeyType.ofKey key = .integer ↔ (readInteger? key.toList).isSome = true := by
  rw [KeyType.ofKey]
  cases hread : readInteger? key.toList with
  | none => simp
  | some i =>
    cases hfits : fitsInt64 i with
    | true => simp [hfits]
    | false => exact absurd ⟨i, hread, hfits⟩ h

namespace JsonSchema

variable {exported : Entries SchemaKey JsonSchema}

/-- The schemas of the literal names. -/
def namedSchemas (exported : Entries SchemaKey JsonSchema) : List (String × JsonSchema) :=
  exported.filterMap fun (key, s) =>
    match key with
    | .name n => some (n, s)
    | .type _ => none

/-- The literal names that look like integers. -/
def integerNames (exported : Entries SchemaKey JsonSchema) : List String :=
  (Entries.keys (namedSchemas exported)).filter fun n => KeyType.ofKey n == .integer

/-- The schema for integer keys with the pattern of the keys it is for. -/
def keyPatterns (exported : Entries SchemaKey JsonSchema) : List (KeyPattern × JsonSchema) :=
  match Entries.get? (.type .integer) exported, Entries.get? (.type .text) exported with
  | some s, _ => [(.integersExcept (integerNames exported), s)]
  | none, some _ => [(.integersExcept (integerNames exported), .never)]
  | none, none => []

/-- The rules for the members of a mapping. -/
def memberRules (exported : Entries SchemaKey JsonSchema) : MemberRules where
  properties := propertiesViolations (namedSchemas exported)
  patterns := patternsViolations (keyPatterns exported)
  additional := additionalViolations ((Entries.get? (.type .text) exported).getD .never)

theorem mem_namedSchemas {name : String} {s : JsonSchema} (h : (name, s) ∈ namedSchemas exported) :
    (SchemaKey.name name, s) ∈ exported := by
  obtain ⟨⟨key, t⟩, hmem, hname⟩ := List.mem_filterMap.mp h
  cases key with
  | type => cases hname
  | name n =>
    cases hname
    exact hmem

@[simp] theorem get?_namedSchemas {name : String} :
    Entries.get? name (namedSchemas exported) = Entries.get? (.name name) exported := by
  induction exported with
  | nil => rfl
  | cons e rest ih =>
    obtain ⟨_ | _, s⟩ := e
    · rename_i n
      show Entries.get? name ((n, s) :: namedSchemas rest) = _
      rw [Entries.get?, Entries.get?, ih]
      by_cases h : n = name
      · subst h
        simp
      · rw [if_neg (by simpa using h), if_neg (by simpa using h)]
    · exact ih

@[simp] theorem get?_propertiesViolations {name : String}
    {properties : List (String × JsonSchema)} :
    Entries.get? name (propertiesViolations properties) =
      (Entries.get? name properties).map JsonSchema.violations := by
  induction properties with
  | nil => rfl
  | cons p rest ih =>
    rw [propertiesViolations, Entries.get?, Entries.get?, ih]
    split <;> rfl

/-- A literal name that looks like an integer is one of those the pattern leaves out. -/
theorem not_matchesKey_of_get? {name : String} {s : JsonSchema} (hname : ¬ IsOverlong name)
    (h : Entries.get? (.name name) exported = some s) :
    (KeyPattern.integersExcept (integerNames exported)).matchesKey name = false := by
  rw [Bool.eq_false_iff, Ne, KeyPattern.matchesKey_integersExcept_iff]
  rintro ⟨hread, hnot⟩
  refine hnot (List.mem_filter.mpr ⟨?_, ?_⟩)
  · rw [← get?_namedSchemas] at h
    exact List.mem_map_of_mem (f := (·.1)) (Entries.mem_of_get?_eq_some h)
  · exact beq_iff_eq.mpr ((ofKey_eq_integer_iff hname).mpr hread)

/-- Without an entry of its own, a key is matched by the pattern if it is an integer key. -/
theorem matchesKey_iff_of_get? {key : String} (hkey : ¬ IsOverlong key)
    (h : Entries.get? (.name key) exported = none) :
    (KeyPattern.integersExcept (integerNames exported)).matchesKey key = true ↔
      KeyType.ofKey key = .integer := by
  rw [KeyPattern.matchesKey_integersExcept_iff, ofKey_eq_integer_iff hkey]
  apply and_iff_left
  intro hmem
  have hkeys := Entries.contains_iff_mem_keys.mpr (List.mem_filter.mp hmem).1
  rw [Entries.contains, get?_namedSchemas, h] at hkeys
  cases hkeys

/-- A literal name is checked by its own schema and by nothing else. -/
theorem checkers_of_name {name : String} {s : JsonSchema} (hname : ¬ IsOverlong name)
    (h : Entries.get? (.name name) exported = some s) :
    (memberRules exported).checkers name = [s.violations] := by
  have hmatching : (memberRules exported).matching name = [] := by
    have hpattern := not_matchesKey_of_get? hname h
    simp only [MemberRules.matching, memberRules, keyPatterns]
    split <;> simp [patternsViolations, hpattern]
  rw [MemberRules.checkers, hmatching]
  simp only [memberRules, get?_propertiesViolations, get?_namedSchemas, h, Option.map_some]

/-- A key without an entry of its own is checked by the schema of its type and by nothing else. -/
theorem checkers_of_type {key : String} {keywords : List Keyword} (hkey : ¬ IsOverlong key)
    (hname : Entries.get? (.name key) exported = none)
    (htype : Entries.get? (.type (KeyType.ofKey key)) exported = some (.all keywords)) :
    (memberRules exported).checkers key = [violations (.all keywords)] := by
  have hproperty : Entries.get? key (memberRules exported).properties = none := by
    simp [memberRules, hname]
  have hpattern := matchesKey_iff_of_get? hkey hname
  rw [MemberRules.checkers, hproperty]
  cases hk : KeyType.ofKey key with
  | integer =>
    rw [hk] at htype
    simp [MemberRules.matching, memberRules, keyPatterns, htype, patternsViolations,
      hpattern.mpr hk]
  | text =>
    rw [hk] at htype hpattern
    have hmatching : (memberRules exported).matching key = [] := by
      have hno : (KeyPattern.integersExcept (integerNames exported)).matchesKey key = false := by
        rw [Bool.eq_false_iff, Ne, hpattern]
        exact KeyType.noConfusion
      simp only [MemberRules.matching, memberRules, keyPatterns]
      split <;> simp [patternsViolations, hno]
    rw [hmatching]
    simp only [memberRules, htype, Option.getD_some]
    rfl

end JsonSchema

namespace Dict

open JsonSchema

variable {d : Dict}

/-- The names a mapping must have. -/
def requiredNames (d : Dict) : List String :=
  d.filterMap fun (key, f) =>
    match key with
    | .name n => if f.optional then none else some n
    | .type _ => none

theorem keywordViolations_memberKeyword (d : Dict) (exported : Entries SchemaKey JsonSchema)
    (node : Pointer) (j : Json) :
    keywordViolations (memberKeyword d exported) node j =
      requiredViolations node j d.requiredNames ++ (memberRules exported).violations node j :=
  rfl

theorem mem_requiredNames {name : String} (h : name ∈ d.requiredNames) :
    ∃ f, (SchemaKey.name name, f) ∈ d ∧ f.optional = false := by
  obtain ⟨⟨key, f⟩, hmem, hname⟩ := List.mem_filterMap.mp h
  cases key with
  | type t => cases hname
  | name n =>
    simp only [Option.ite_none_left_eq_some, Bool.not_eq_true, Option.some.injEq] at hname
    obtain ⟨hf, rfl⟩ := hname
    exact ⟨f, hmem, hf⟩

theorem mem_exportEntries {key : SchemaKey} {s : JsonSchema} (h : (key, s) ∈ exportEntries d) :
    ∃ f, (key, f) ∈ d ∧ s = f.jsonSchema := by
  induction d with
  | nil => cases h
  | cons e rest ih =>
    rcases List.mem_cons.mp h with h | h
    · cases h
      exact ⟨_, List.mem_cons_self, rfl⟩
    · obtain ⟨f, hf, hs⟩ := ih h
      exact ⟨f, List.mem_cons_of_mem e hf, hs⟩

@[simp] theorem get?_exportEntries {key : SchemaKey} :
    Entries.get? key (exportEntries d) = (d.get? key).map Field.jsonSchema := by
  induction d with
  | nil => rfl
  | cons e rest ih =>
    obtain ⟨k, f⟩ := e
    rw [exportEntries, Dict.get?, Entries.get?, Entries.get?]
    split
    · rfl
    · exact ih

/-- The member of a key is checked by the export of the field that governs the key. -/
theorem checkers_of_field? {key : String} {f : Field} (hkey : ¬ IsOverlong key)
    (h : d.field? key = some f) :
    (memberRules (exportEntries d)).checkers key = [f.jsonSchema.violations] := by
  rw [Dict.field?, Option.or_eq_some_iff] at h
  rcases h with h | ⟨hname, htype⟩
  · exact checkers_of_name hkey (by rw [get?_exportEntries, h, Option.map_some])
  · cases f
    exact checkers_of_type hkey (by rw [get?_exportEntries, hname, Option.map_none])
      (by rw [get?_exportEntries, htype, Option.map_some]; rfl)

/-- A mapping that lacks nothing and whose members are fine under the fields of their keys is fine
under the export of the dict. -/
theorem allows_members {ms : List (String × Json)}
    (hcomplete : ∀ name f, (SchemaKey.name name, f) ∈ d → f.optional = false →
      name ∈ Entries.keys ms)
    (hmembers : ∀ key j, (key, j) ∈ ms →
      ¬ IsOverlong key ∧ ∃ f, d.field? key = some f ∧ f.jsonSchema.Allows j) :
    (memberKeyword d (exportEntries d)).Allows (.object ms) := by
  intro node
  rw [keywordViolations_memberKeyword, List.append_eq_nil_iff]
  constructor
  · apply requiredViolations_eq_nil
    intro name hname
    obtain ⟨f, hmem, hf⟩ := mem_requiredNames hname
    exact hcomplete name f hmem hf
  · apply MemberRules.violations_eq_nil
    intro key j hmem
    obtain ⟨hkey, f, hf, hj⟩ := hmembers key j hmem
    exact ⟨_, checkers_of_field? hkey hf, hj⟩

end Dict

end TypedDocument
