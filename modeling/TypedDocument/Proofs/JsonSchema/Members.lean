import TypedDocument.Proofs.JsonSchema.Keywords

/-!
# The schemas that apply to a member

In an export, a member is meant to meet one schema: the export of the field that governs its key, or
the schema that nothing meets if no field does. The dict tells integer keys by reading them into 64
bits, and the export by a pattern, which takes integers of any length. The two agree on all keys
but integers that are out of range. Such a key is a text to the dict, so where the dict has key
types, the pattern brings in another schema.
-/

namespace TypedDocument

/-- The schemas that apply to the member of a key: that of its own name and those of the patterns it
matches, and if there is none, that of additional members. -/
def Keyword.applicable : Keyword → String → List JsonSchema
  | .members properties _ patterns additional, key =>
    let named := (Entries.get? key properties).toList
    let matching := patterns.filterMap fun (p, s) => if p.matchesKey key then some s else none
    if (named ++ matching).isEmpty then [additional] else named ++ matching
  | _, _ => []

namespace JsonSchema

variable {properties : List (String × JsonSchema)} {required : List String}
  {patterns : List (KeyPattern × JsonSchema)} {additional : JsonSchema} {key : String}
  {node : Pointer} {ms : List (String × Json)}

/-! ## What applies is what is checked -/

theorem matching_patternsViolations (rules : MemberRules)
    (h : rules.patterns = patternsViolations patterns) (key : String) :
    rules.matching key =
      (patterns.filterMap fun (p, s) => if p.matchesKey key then some s else none).map
        violations := by
  rw [MemberRules.matching, h]
  clear h
  induction patterns with
  | nil => rfl
  | cons e rest ih =>
    obtain ⟨p, s⟩ := e
    rw [patternsViolations, List.filterMap_cons, List.filterMap_cons]
    cases hp : p.matchesKey key <;> simp [hp, ih]

/-- A member is checked by what applies to it. The schema that nothing meets is no checker of
additional members, but reports them as strangers. -/
theorem checkers_applicable (rules : MemberRules) (required : List String) (key : String)
    (hproperties : rules.properties = propertiesViolations properties)
    (hpatterns : rules.patterns = patternsViolations patterns)
    (hadditional : rules.additional = additionalViolations additional) :
    rules.checkers key =
        ((Keyword.members properties required patterns additional).applicable key).map violations ∨
      rules.checkers key = [] ∧
        (Keyword.members properties required patterns additional).applicable key = [.never] := by
  rw [MemberRules.checkers, matching_patternsViolations rules hpatterns, hproperties,
    get?_propertiesViolations, hadditional, Keyword.applicable]
  cases Entries.get? key properties with
  | some s => exact .inl (by simp)
  | none =>
    cases patterns.filterMap fun (p, s) => if p.matchesKey key then some s else none with
    | cons s rest => exact .inl (by simp)
    | nil =>
      cases additional with
      | never => exact .inr ⟨rfl, rfl⟩
      | all ks => exact .inl rfl

theorem applicable_members_ne_nil :
    (Keyword.members properties required patterns additional).applicable key ≠ [] := by
  rw [Keyword.applicable]
  split
  · exact List.cons_ne_nil _ _
  · rename_i h
    exact fun hnil => h (List.isEmpty_iff.mpr hnil)

theorem violations_never_ne_nil {j : Json} : violations .never node j ≠ [] := List.cons_ne_nil _ _

/-- An object is fine if it has the members it must have and each of its members is fine under
every schema that applies to it. -/
theorem keywordViolations_members_eq_nil_iff :
    keywordViolations (.members properties required patterns additional) node (.object ms) = [] ↔
      requiredViolations node (.object ms) required = [] ∧
        ∀ e ∈ ms, ∀ s ∈ (Keyword.members properties required patterns additional).applicable e.1,
          violations s (node.child e.1) e.2 = [] := by
  rw [keywordViolations, List.append_eq_nil_iff, MemberRules.violations, List.append_eq_nil_iff,
    MemberRules.strangers_eq_nil_iff, List.flatMap_eq_nil_iff]
  apply and_congr_right'
  rw [← forall_and]
  simp only [← imp_and]
  apply forall₂_congr
  rintro ⟨key, j⟩ -
  rcases checkers_applicable (MemberRules.mk (propertiesViolations properties)
      (patternsViolations patterns) (additionalViolations additional)) required key rfl rfl rfl with
    h | ⟨h, happlicable⟩
  · simp [h, List.flatMap_eq_nil_iff, applicable_members_ne_nil]
  · simp [h, happlicable, violations_never_ne_nil]

end JsonSchema

/-! ## The schema of the field that governs a key -/

namespace Dict

open JsonSchema

variable {d : Dict} {key : String}

/-- The export of the field that governs a key. No value is fine under a key without one. -/
def governingSchema (d : Dict) (key : String) : JsonSchema :=
  ((d.field? key).map Field.jsonSchema).getD .never

/-- What the export says about the members of a mapping. -/
def exportedMembers (d : Dict) : Keyword := memberKeyword d (exportEntries d)

/-- No keys are declared by their type. -/
def IsUntyped (d : Dict) : Prop := d.get? (.type .text) = none ∧ d.get? (.type .integer) = none

/-- The dict has the same rules for a key whether it is taken for a text or for an integer: either
there are no types of keys, or the key has no entry of its own and both types have the same. -/
def IsIndifferentTo (d : Dict) (key : String) : Prop :=
  d.IsUntyped ∨
    d.get? (.name key) = none ∧ (d.get? (.type .text)).map Field.jsonSchema =
      (d.get? (.type .integer)).map Field.jsonSchema

/-- The schemas of the patterns of a dict that a key matches: that of integer keys, if the key looks
like an integer and is not a literal name of its type. -/
theorem matching_keyPatterns (htypes : ¬ d.IsUntyped) :
    ((keyPatterns (exportEntries d)).filterMap fun (p, s) =>
        if p.matchesKey key then some s else none) =
      if (KeyPattern.integersExcept (integerNames (exportEntries d))).matchesKey key then
        [((d.get? (.type .integer)).map Field.jsonSchema).getD .never] else [] := by
  have hpatterns : keyPatterns (exportEntries d) =
      [(.integersExcept (integerNames (exportEntries d)),
        ((d.get? (.type .integer)).map Field.jsonSchema).getD .never)] := by
    rw [keyPatterns, get?_exportEntries, get?_exportEntries]
    cases hinteger : d.get? (.type .integer) with
    | some f => rfl
    | none =>
      cases htext : d.get? (.type .text) with
      | some f => rfl
      | none => exact absurd ⟨htext, hinteger⟩ htypes
  rw [hpatterns]
  split <;> simp [*]

/-- An integer that is out of range is matched by the pattern even if it is a literal name. -/
theorem matchesKey_of_isOverlong {exported : Entries SchemaKey JsonSchema} (h : IsOverlong key) :
    (KeyPattern.integersExcept (integerNames exported)).matchesKey key = true := by
  obtain ⟨i, hread, hfits⟩ := h
  rw [KeyPattern.matchesKey_integersExcept_iff, hread]
  refine ⟨rfl, fun hmem => ?_⟩
  have hinteger := (List.mem_filter.mp hmem).2
  simp [KeyType.ofKey, hread, hfits] at hinteger

theorem ofKey_of_isOverlong (h : IsOverlong key) : KeyType.ofKey key = .text := by
  obtain ⟨i, hread, hfits⟩ := h
  simp [KeyType.ofKey, hread, hfits]

/-- What applies to a key by the literal names, the pattern and the rest. -/
theorem applicable_exportedMembers (d : Dict) (key : String) :
    d.exportedMembers.applicable key =
      let named := ((d.get? (.name key)).map Field.jsonSchema).toList
      let matching := (keyPatterns (exportEntries d)).filterMap fun (p, s) =>
        if p.matchesKey key then some s else none
      if (named ++ matching).isEmpty then
        [((d.get? (.type .text)).map Field.jsonSchema).getD .never]
      else named ++ matching := by
  rw [← get?_exportEntries, ← get?_exportEntries, ← get?_namedSchemas]
  rfl

theorem governingSchema_eq (d : Dict) (key : String) :
    d.governingSchema key = (((d.get? (.name key)).map Field.jsonSchema).or
      ((d.get? (.type (KeyType.ofKey key))).map Field.jsonSchema)).getD .never := by
  rw [governingSchema, Dict.field?, Option.map_or]

/-- Without types of keys there is no pattern. -/
theorem applicable_of_isUntyped (h : d.IsUntyped) :
    d.exportedMembers.applicable key = [d.governingSchema key] := by
  obtain ⟨htext, hinteger⟩ := h
  have htype : d.get? (.type (KeyType.ofKey key)) = none := by
    cases KeyType.ofKey key
    · exact htext
    · exact hinteger
  have hpatterns : keyPatterns (exportEntries d) = [] := by
    simp [keyPatterns, htext, hinteger]
  rw [applicable_exportedMembers, governingSchema_eq, hpatterns, htype, htext]
  cases d.get? (.name key) <;> rfl

/-- With types of keys, the pattern decides. -/
theorem applicable_of_not_isUntyped (htypes : ¬ d.IsUntyped) :
    d.exportedMembers.applicable key =
      let named := ((d.get? (.name key)).map Field.jsonSchema).toList
      if (KeyPattern.integersExcept (integerNames (exportEntries d))).matchesKey key then
        named ++ [((d.get? (.type .integer)).map Field.jsonSchema).getD .never]
      else if named.isEmpty then [((d.get? (.type .text)).map Field.jsonSchema).getD .never]
      else named := by
  rw [applicable_exportedMembers, matching_keyPatterns htypes]
  cases (KeyPattern.integersExcept (integerNames (exportEntries d))).matchesKey key <;>
    cases d.get? (.name key) <;> rfl

/-- To a key that is in range, or no integer at all, exactly the export of its field applies. -/
theorem applicable_of_not_isOverlong (h : ¬ IsOverlong key) :
    d.exportedMembers.applicable key = [d.governingSchema key] := by
  by_cases htypes : d.IsUntyped
  · exact applicable_of_isUntyped htypes
  · rw [applicable_of_not_isUntyped htypes, governingSchema_eq]
    cases hname : d.get? (.name key) with
    | some f =>
      have hexported : Entries.get? (.name key) (exportEntries d) = some f.jsonSchema := by
        rw [get?_exportEntries, hname, Option.map_some]
      simp [not_matchesKey_of_get? h hexported]
    | none =>
      have hexported : Entries.get? (.name key) (exportEntries d) = none := by
        rw [get?_exportEntries, hname, Option.map_none]
      have hpattern := matchesKey_iff_of_get? h hexported
      cases hk : KeyType.ofKey key <;> simp [hk] at hpattern <;> simp [hpattern]

/-- To an integer that is out of range the schema of integer keys applies besides that of its own
name, and in the place of that of text keys. -/
theorem applicable_of_isOverlong (h : IsOverlong key) (htypes : ¬ d.IsUntyped) :
    d.exportedMembers.applicable key =
      ((d.get? (.name key)).map Field.jsonSchema).toList ++
        [((d.get? (.type .integer)).map Field.jsonSchema).getD .never] := by
  rw [applicable_of_not_isUntyped htypes, matchesKey_of_isOverlong h]
  rfl

theorem getD_jsonSchema_inj {f? g? : Option Field} :
    (f?.map Field.jsonSchema).getD .never = (g?.map Field.jsonSchema).getD .never ↔
      f?.map Field.jsonSchema = g?.map Field.jsonSchema := by
  cases f? with
  | none =>
    cases g? with
    | none => simp
    | some g =>
      cases g
      simp [Field.jsonSchema]
  | some f =>
    cases f
    cases g? with
    | none => simp [Field.jsonSchema]
    | some g => simp

/-- The export of a dict has exactly the export of the field that governs a key apply to its member,
and that is what members are checked by, unless the key is an integer out of range and the dict has
different rules for texts and integers. -/
theorem applicable_eq_governingSchema_iff (d : Dict) :
    (∀ node ms, keywordViolations d.exportedMembers node (.object ms) = [] ↔
      requiredViolations node (.object ms) d.requiredNames = [] ∧
        ∀ e ∈ ms, ∀ s ∈ d.exportedMembers.applicable e.1,
          JsonSchema.violations s (node.child e.1) e.2 = []) ∧
    ∀ key, d.exportedMembers.applicable key = [d.governingSchema key] ↔
      (IsOverlong key → d.IsIndifferentTo key) := by
  refine ⟨fun node ms => keywordViolations_members_eq_nil_iff, fun key => ?_⟩
  by_cases h : IsOverlong key
  · rw [imp_iff_right h, IsIndifferentTo]
    by_cases htypes : d.IsUntyped
    · exact iff_of_true (applicable_of_isUntyped htypes) (.inl htypes)
    · rw [applicable_of_isOverlong h htypes, governingSchema_eq, ofKey_of_isOverlong h,
        or_iff_right htypes]
      cases d.get? (.name key) with
      | some f => simp
      | none => simpa [eq_comm] using getD_jsonSchema_inj
  · exact iff_of_true (applicable_of_not_isOverlong h) (absurd · h)

/-- A number of twenty digits as a literal name is a text in the dict, but in the export it has to
meet the schema of integer keys as well. -/
theorem two_schemas_for_long_name :
    Dict.governingSchema [(.name "99999999999999999999", .text), (.type .integer, .long)]
        "99999999999999999999" = Field.text.jsonSchema ∧
      (exportedMembers [(.name "99999999999999999999", .text), (.type .integer, .long)]).applicable
        "99999999999999999999" = [Field.text.jsonSchema, Field.long.jsonSchema] ∧
      (exportedMembers [(.name "99999999999999999999", .text), (.type .integer, .long)]).applicable
          "99999999999999999999" ≠
        [Dict.governingSchema [(.name "99999999999999999999", .text), (.type .integer, .long)]
          "99999999999999999999"] := by
  have hlong : IsOverlong "99999999999999999999" := by decide
  have htypes : ¬ IsUntyped
      [(.name "99999999999999999999", Field.text), (.type .integer, Field.long)] :=
    fun h => nomatch h.2
  rw [applicable_of_isOverlong hlong htypes]
  refine ⟨rfl, rfl, fun h => ?_⟩
  cases congrArg List.length h

end Dict

end TypedDocument
