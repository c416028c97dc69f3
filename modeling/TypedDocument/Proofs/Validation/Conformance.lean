import TypedDocument.Proofs.Document.Containers
import TypedDocument.Proofs.Field.Nesting
import TypedDocument.Proofs.Outcome
import TypedDocument.Validation.Basic

/-!
# Conformance

What it means for a value to conform to a field, said without any order: a mapping conforms if
each of its entries does and nothing required is missing, whichever entry is looked at first.
The checker of `Validation.Basic` goes through a value in order, stops at the first offence and
tries candidates one by one. `Value.Conforms` is the relation it decides. Where it fails, its
loops have come to the first element or entry that is not accepted.
-/

namespace TypedDocument

/-- A number within its bounds. NaN is within no bounds that are set. -/
structure Bounds.Admits (b : Bounds) (n : Number) : Prop where
  min : ∀ low, b.min = some low → n.isNaN = false ∧ n.lt low = false
  max : ∀ high, b.max = some high → n.isNaN = false ∧ high.lt n = false

/-- A text that keeps the rules. Least and greatest length count only where no exact length is
set. -/
structure TextRules.Admits (r : TextRules) (s : String) : Prop where
  length : ∀ n, r.length = some n → s.length = n
  minLen : r.length = none → ∀ n, r.minLen = some n → n ≤ s.length
  maxLen : r.length = none → ∀ n, r.maxLen = some n → s.length ≤ n
  pattern : ∀ p, r.pattern = some p → p.matchesStart s = true

/-- The rules of a kind about a value that is no container. -/
def FieldKind.RulesHold : FieldKind → Value → Prop
  | int b, .int i => b.Admits (.int i.toInt64)
  | long b, .long i => b.Admits (.int i)
  | float b, .float x => b.Admits (.float x)
  | text r, .text s => r.Admits s
  | _, _ => True

/-- The field that governs a document key: the one under its own name, and only without one that
under its type. -/
inductive Dict.Governs (d : Dict) (key : String) : Field → Prop where
  | literal {f : Field} (h : d.get? (.name key) = some f) : Governs d key f
  | typed {f : Field} (h : d.get? (.name key) = none)
    (ht : d.get? (.type (KeyType.ofKey key)) = some f) : Governs d key f

/-- A mapping with the given keys lacks nothing the dict requires. A key type asks for a key of
its type that the dict does not declare by name. -/
structure Dict.CompletedBy (d : Dict) (keys : List String) : Prop where
  names : ∀ n f, (SchemaKey.name n, f) ∈ d → f.optional = false → n ∈ keys
  types : ∀ t f, (SchemaKey.type t, f) ∈ d → f.optional = false →
    ∃ k ∈ keys, KeyType.ofKey k = t ∧ d.get? (.name k) = none

mutual

/-- A value conforms to a field. Partial conformance, at every depth, does not ask for the
entries a mapping lacks. -/
inductive Value.Conforms (partially : Bool) : Value → Field → Prop where
  | null {f : Field} (h : f.nullable = true) : Conforms partially .null f
  | plain {v : Value} {f : Field} (present : v ≠ .null) (kind : f.kind.isContainer = false)
    (accepted : f.kind.accepts v = true) (rules : f.kind.RulesHold v) : Conforms partially v f
  | list {items : List Value} {f : Field} {candidates : List Field} {least : Nat}
    {most : Option Nat} (kind : f.kind = .list candidates least most)
    (enough : least ≤ items.length) (notTooMany : ∀ n, most = some n → items.length ≤ n)
    (elements : candidates ≠ [] → ∀ v ∈ items, Value.ConformsToSome partially v candidates) :
    Conforms partially (.list items) f
  | map {entries : Mapping} {f : Field} {d : Dict} (kind : f.kind = .dict d)
    (governed : ∀ key v, (key, v) ∈ entries → Value.ConformsUnder partially d key v)
    (complete : partially = false → d.CompletedBy (Entries.keys entries)) :
    Conforms partially (.map entries) f

/-- A value conforms to at least one of several fields. -/
inductive Value.ConformsToSome (partially : Bool) : Value → List Field → Prop where
  | intro {v : Value} {c : Field} {candidates : List Field} (candidate : c ∈ candidates)
    (conforms : Value.Conforms partially v c) : ConformsToSome partially v candidates

/-- A value conforms to the field that governs its key. -/
inductive Value.ConformsUnder (partially : Bool) : Dict → String → Value → Prop where
  | intro {d : Dict} {key : String} {v : Value} {f : Field} (governs : d.Governs key f)
    (conforms : Value.Conforms partially v f) : ConformsUnder partially d key v

end

/-! ## The checks of single rules -/

@[simp] theorem report_eq_ok_iff {name : String} {o : Option Offence} :
    report name o = .ok () ↔ o = none := by
  cases o <;> simp [report]

@[simp] theorem Bounds.offence?_eq_none_iff {b : Bounds} {n : Number} :
    b.offence? n = none ↔ b.Admits n := by
  constructor
  · intro h
    constructor
    · intro low hlow
      simp only [offence?, hlow] at h
      grind
    · intro high hhigh
      simp only [offence?, hhigh] at h
      grind
  · rintro ⟨hmin, hmax⟩
    obtain ⟨min, max⟩ := b
    cases min <;> cases max <;> simp_all [offence?, Option.filter]

theorem TextRules.lengthOffence?_eq_none_iff {r : TextRules} {n : Nat} :
    r.lengthOffence? n = none ↔
      (∀ expected, r.length = some expected → n = expected) ∧
        (r.length = none → ∀ least, r.minLen = some least → least ≤ n) ∧
        (r.length = none → ∀ most, r.maxLen = some most → n ≤ most) := by
  obtain ⟨length, minLen, maxLen, pattern⟩ := r
  cases length with
  | some expected => simp [lengthOffence?]
  | none =>
    cases minLen <;> cases maxLen <;> simp [lengthOffence?, Option.filter]
    all_goals grind

@[simp] theorem TextRules.offence?_eq_none_iff {r : TextRules} {s : String} :
    r.offence? s = none ↔ r.Admits s := by
  have hpattern : r.patternOffence? s = none ↔
      ∀ p, r.pattern = some p → p.matchesStart s = true := by
    cases hp : r.pattern <;> simp [patternOffence?, hp]
  simp only [offence?, Option.or_eq_none_iff, lengthOffence?_eq_none_iff, hpattern]
  constructor
  · rintro ⟨⟨hlength, hmin, hmax⟩, hp⟩
    exact ⟨hlength, hmin, hmax, hp⟩
  · rintro ⟨hlength, hmin, hmax, hp⟩
    exact ⟨⟨hlength, hmin, hmax⟩, hp⟩

/-- The check of a value that is no container finds nothing exactly if the value has the type of
the kind and keeps its rules. -/
@[simp] theorem FieldKind.offence?_eq_none_iff {kind : FieldKind} {v : Value} :
    kind.offence? v = none ↔ kind.accepts v = true ∧ kind.RulesHold v := by
  cases kind <;> cases v <;>
    simp [offence?, accepts, RulesHold]

@[simp] theorem FieldKind.countOffence?_eq_none_iff {least : Nat} {most : Option Nat}
    {count : Nat} :
    countOffence? least most count = none ↔ least ≤ count ∧ ∀ n, most = some n → count ≤ n := by
  cases most with
  | none => simp [countOffence?]
  | some most =>
    simp only [countOffence?, Option.some.injEq, forall_eq']
    split
    · simp only [reduceCtorEq, false_iff]
      omega
    · split <;> simp only [reduceCtorEq, false_iff, true_iff] <;> omega

/-! ## Keys -/

theorem Dict.field?_eq_some_iff {d : Dict} {key : String} {f : Field} :
    d.field? key = some f ↔ d.Governs key f := by
  constructor
  · intro h
    cases hname : d.get? (.name key) with
    | some g =>
      simp only [field?, hname, Option.some_or, Option.some.injEq] at h
      exact .literal (h ▸ hname)
    | none => exact .typed hname (by simpa [field?, hname] using h)
  · intro h
    cases h with
    | literal h => simp [field?, h]
    | typed h ht => simp [field?, h, ht]

theorem Dict.lack?_eq_none_iff {d : Dict} {name : String} {keys : List String} {key : SchemaKey}
    {f : Field} :
    d.lack? name keys key f = none ↔
      (f.optional = false →
        match key with
        | .name n => n ∈ keys
        | .type t => ∃ k ∈ keys, KeyType.ofKey k = t ∧ d.get? (.name k) = none) := by
  cases hf : f.optional with
  | true => simp [lack?, hf]
  | false =>
    cases key with
    | name n => simp [lack?, hf]
    | type t =>
      simp [lack?, hf, Entries.contains, get?]
      grind

@[simp] theorem Dict.firstLack?_eq_none_iff {d : Dict} (name : String) {keys : List String} :
    d.firstLack? name keys = none ↔ d.CompletedBy keys := by
  simp only [firstLack?, List.findSome?_eq_none_iff, Prod.forall, lack?_eq_none_iff]
  constructor
  · intro h
    exact ⟨fun n f hmem hf => h (.name n) f hmem hf, fun t f hmem hf => h (.type t) f hmem hf⟩
  · rintro ⟨hnames, htypes⟩ key f hmem hf
    cases key with
    | name n => exact hnames n f hmem hf
    | type t => exact htypes t f hmem hf

namespace Value

variable {partially : Bool} {f : Field} {name : String}

/-! ## Conformance of each form of a value -/

@[simp] theorem conforms_null_iff : Conforms partially .null f ↔ f.nullable = true := by
  constructor
  · intro h
    cases h with
    | null h => exact h
    | plain present => exact absurd rfl present
  · exact .null

/-- Whatever conforms to a field, apart from null, has the type of its kind. -/
theorem accepts_of_conforms {v : Value} (present : v ≠ .null) (h : Conforms partially v f) :
    f.kind.accepts v = true := by
  cases h with
  | null => exact absurd rfl present
  | plain _ _ accepted => exact accepted
  | list kind => rw [kind, FieldKind.accepts]
  | map kind => rw [kind, FieldKind.accepts]

/-- A value that is not taken apart conforms by its type and the rules of the kind. -/
theorem conforms_iff_accepts {v : Value} (present : v ≠ .null)
    (hlist : ∀ items candidates least most, v = .list items → f.kind ≠ .list candidates least most)
    (hmap : ∀ es d, v = .map es → f.kind ≠ .dict d) :
    Conforms partially v f ↔ f.kind.accepts v = true ∧ f.kind.RulesHold v := by
  constructor
  · intro h
    cases h with
    | null h => exact absurd rfl present
    | plain _ _ accepted rules => exact ⟨accepted, rules⟩
    | list kind => exact absurd kind (hlist _ _ _ _ rfl)
    | map kind => exact absurd kind (hmap _ _ rfl)
  · rintro ⟨accepted, rules⟩
    refine .plain present ?_ accepted rules
    cases hk : f.kind with
    | list candidates least most =>
      cases v <;> simp only [hk, FieldKind.accepts, Bool.false_eq_true] at accepted
      exact absurd hk (hlist _ _ _ _ rfl)
    | dict d =>
      cases v <;> simp only [hk, FieldKind.accepts, Bool.false_eq_true] at accepted
      exact absurd hk (hmap _ _ rfl)
    | _ => rfl

theorem conforms_list_iff {items : List Value} {candidates : List Field} {least : Nat}
    {most : Option Nat} (hk : f.kind = .list candidates least most) :
    Conforms partially (.list items) f ↔
      (least ≤ items.length ∧ ∀ n, most = some n → items.length ≤ n) ∧
        (candidates ≠ [] → ∀ v ∈ items, ∃ c ∈ candidates, Conforms partially v c) := by
  constructor
  · intro h
    cases h with
    | plain _ kind => simp [hk, FieldKind.isContainer] at kind
    | list kind enough notTooMany elements =>
      rw [hk] at kind
      cases kind
      refine ⟨⟨enough, notTooMany⟩, ?_⟩
      intro hne v hv
      obtain ⟨candidate, conforms⟩ := elements hne v hv
      exact ⟨_, candidate, conforms⟩
  · rintro ⟨⟨enough, notTooMany⟩, elements⟩
    apply Conforms.list hk enough notTooMany
    intro hne v hv
    obtain ⟨c, candidate, conforms⟩ := elements hne v hv
    exact ⟨candidate, conforms⟩

theorem conforms_map_iff {entries : Mapping} {d : Dict} (hk : f.kind = .dict d) :
    Conforms partially (.map entries) f ↔
      (∀ key v, (key, v) ∈ entries → ∃ g, d.field? key = some g ∧ Conforms partially v g) ∧
        (partially = false → d.CompletedBy (Entries.keys entries)) := by
  constructor
  · intro h
    cases h with
    | plain _ kind => simp [hk, FieldKind.isContainer] at kind
    | map kind governed complete =>
      rw [hk] at kind
      cases kind
      refine ⟨?_, complete⟩
      intro key v hmem
      obtain ⟨governs, conforms⟩ := governed key v hmem
      exact ⟨_, Dict.field?_eq_some_iff.mpr governs, conforms⟩
  · rintro ⟨governed, complete⟩
    refine .map hk ?_ complete
    intro key v hmem
    obtain ⟨g, hg, conforms⟩ := governed key v hmem
    exact ⟨Dict.field?_eq_some_iff.mp hg, conforms⟩

/-! ## The checker decides conformance -/

/-- A value that is neither null nor taken apart goes through the check of single values. -/
@[simp] theorem validate_leaf {v : Value} (hv : v.isContainer = false) (present : v ≠ .null) :
    v.validate partially f name = report name (f.kind.offence? v) := by
  cases v with
  | null => exact absurd rfl present
  | list items => cases hv
  | map es => cases hv
  | _ => rfl

/-- One step of the loop over the elements: the first candidate that validates is enough. -/
theorem validateItems_eq_ok_iff {candidates : List Field} {items : List Value} {index : Nat}
    (ih : ∀ v ∈ items, ∀ f name, v.validate partially f name = .ok () ↔ Conforms partially v f) :
    validateItems partially candidates name index items = .ok () ↔
      ∀ v ∈ items, ∃ c ∈ candidates, Conforms partially v c := by
  induction items generalizing index with
  | nil => simp [validateItems]
  | cons v rest ihrest =>
    have hv := ih v List.mem_cons_self
    have hrest := @ihrest (index + 1) fun w hw => ih w (List.mem_cons_of_mem v hw)
    simp only [validateItems, List.forall_mem_cons]
    split
    · next h =>
      simp only [List.any_eq_true, toBool_eq_true_iff, hv] at h
      simp only [h, hrest, true_and]
    · next h =>
      simp only [List.any_eq_true, toBool_eq_true_iff, hv] at h
      simp only [reduceCtorEq, h, false_and]

theorem validateEntries_eq_ok_iff {d : Dict} {entries : Mapping}
    (ih : ∀ key v, (key, v) ∈ entries →
      ∀ f name, v.validate partially f name = .ok () ↔ Conforms partially v f) :
    validateEntries partially d name entries = .ok () ↔
      ∀ key v, (key, v) ∈ entries → ∃ g, d.field? key = some g ∧ Conforms partially v g := by
  induction entries with
  | nil => simp [validateEntries]
  | cons entry rest ihrest =>
    obtain ⟨key, v⟩ := entry
    have hv := ih key v List.mem_cons_self
    have hrest := ihrest fun k w hw => ih k w (List.mem_cons_of_mem (key, v) hw)
    simp only [List.mem_cons, Prod.mk.injEq, validateEntries]
    cases hf : d.field? key with
    | none =>
      simp only [reduceCtorEq, false_iff]
      intro h
      obtain ⟨g, hg, _⟩ := h key v (.inl ⟨rfl, rfl⟩)
      simp [hf] at hg
    | some f =>
      simp only [check_bind_eq_ok_iff, hv, hrest]
      constructor
      · rintro ⟨conforms, h⟩ k w (⟨rfl, rfl⟩ | hmem)
        · exact ⟨f, hf, conforms⟩
        · exact h k w hmem
      · intro h
        constructor
        · obtain ⟨g, hg, conforms⟩ := h key v (.inl ⟨rfl, rfl⟩)
          rw [hf] at hg
          cases hg
          exact conforms
        · intro k w hmem
          exact h k w (.inr hmem)

/-- A list under a field of another kind goes through the check of single values. -/
theorem validate_list_of_kind_ne {items : List Value}
    (hk : ∀ cs least most, f.kind ≠ .list cs least most) :
    (list items).validate partially f name = report name (f.kind.offence? (list items)) := by
  rw [validate]
  split
  · next h => exact absurd h (hk _ _ _)
  · rfl

theorem validate_map_of_kind_ne {es : Mapping} (hk : ∀ d, f.kind ≠ .dict d) :
    (map es).validate partially f name = report name (f.kind.offence? (map es)) := by
  rw [validate]
  split
  · next h => exact absurd h (hk _)
  · rfl

/-- A value that is not taken apart is checked by its type and the rules of the kind. -/
theorem report_offence?_eq_ok_iff {v : Value} (present : v ≠ .null)
    (hlist : ∀ items candidates least most, v = .list items → f.kind ≠ .list candidates least most)
    (hmap : ∀ es d, v = .map es → f.kind ≠ .dict d) :
    report name (f.kind.offence? v) = .ok () ↔ Conforms partially v f := by
  rw [report_eq_ok_iff, FieldKind.offence?_eq_none_iff, conforms_iff_accepts present hlist hmap]

/-- The checker finds no offence in a value exactly if the value conforms. -/
theorem validate_eq_ok_iff {v : Value} :
    ∀ f name, v.validate partially f name = .ok () ↔ Conforms partially v f := by
  induction v using containerInduction with
  | leaf v hv =>
    intro f name
    by_cases present : v = .null
    · subst present
      cases hn : f.nullable <;> simp [validate, report, hn]
    · rw [validate_leaf hv present]
      apply report_offence?_eq_ok_iff present
      · rintro items _ _ _ rfl
        simp [isContainer] at hv
      · rintro es _ rfl
        simp [isContainer] at hv
  | list items ih =>
    intro f name
    rcases f.kind.eq_list_or_ne with ⟨candidates, least, most, hk⟩ | hne
    · rw [conforms_list_iff hk]
      simp only [validate, hk, check_bind_eq_ok_iff, report_eq_ok_iff,
        FieldKind.countOffence?_eq_none_iff]
      apply and_congr_right
      intro _
      cases candidates with
      | nil => simp
      | cons c rest => simp [validateItems_eq_ok_iff ih]
    · rw [validate_list_of_kind_ne hne]
      exact report_offence?_eq_ok_iff (by simp) (fun _ _ _ _ _ => hne _ _ _) (by simp)
  | map es ih =>
    intro f name
    rcases f.kind.eq_dict_or_ne with ⟨d, hk⟩ | hne
    · rw [conforms_map_iff hk]
      simp only [validate, hk, check_bind_eq_ok_iff, validateEntries_eq_ok_iff ih]
      apply and_congr_right
      intro _
      rw [← Dict.firstLack?_eq_none_iff name]
      cases partially with
      | true => simp
      | false =>
        cases Dict.firstLack? d name (Entries.keys es) <;>
          simp [throw, throwThe, MonadExceptOf.throw]
    · rw [validate_map_of_kind_ne hne]
      exact report_offence?_eq_ok_iff (by simp) (by simp) (fun _ _ _ => hne _)

end Value

/-- Validation accepts exactly the conforming values, whatever name a value goes by in errors. -/
theorem Field.validate_eq_ok_iff_conforms (f : Field) (v : Value) (partially : Bool)
    (name : String) :
    f.validate v name partially = .ok () ↔ v.Conforms partially f :=
  Value.validate_eq_ok_iff f name

/-! ## The first failure -/

variable {partially : Bool} {name : String} {e : ValidationError}

/-- A field accepts a value if validation does, whatever name the value goes by. -/
def Field.Accepts (partially : Bool) (f : Field) (v : Value) : Prop :=
  ∀ name, f.validate v name partially = .ok ()

/-- Every entry of a mapping is accepted by the field that governs it. -/
def Dict.AcceptsAll (partially : Bool) (d : Dict) (es : Mapping) : Prop :=
  ∀ entry ∈ es, ∃ f, d.field? entry.1 = some f ∧ f.Accepts partially entry.2

theorem report_eq_error_iff {o : Option Offence} :
    report name o = .error e ↔ ∃ x, o = some x ∧ ⟨name, x⟩ = e := by
  cases o <;> simp [report]

theorem Field.accepts_iff_conforms {f : Field} {v : Value} :
    f.Accepts partially v ↔ v.Conforms partially f := by
  constructor
  · exact fun h => (Value.validate_eq_ok_iff f "").mp (h "")
  · exact fun h name => (Value.validate_eq_ok_iff f name).mpr h

theorem Field.accepts_iff_validate {f : Field} {v : Value} (name : String) :
    f.Accepts partially v ↔ f.validate v name partially = .ok () :=
  accepts_iff_conforms.trans (Value.validate_eq_ok_iff f name).symm

theorem Dict.acceptsAll_iff {d : Dict} {es : Mapping} (name : String) :
    d.AcceptsAll partially es ↔ Value.validateEntries partially d name es = .ok () := by
  rw [Value.validateEntries_eq_ok_iff fun _ _ _ => Value.validate_eq_ok_iff]
  simp only [AcceptsAll, Field.accepts_iff_conforms, Prod.forall]

namespace Value

theorem any_toBool_validate_iff {v : Value} {candidates : List Field} (element : String) :
    (candidates.any fun c => (v.validate partially c element).toBool) = true ↔
      ∃ c ∈ candidates, c.Accepts partially v := by
  simp only [List.any_eq_true, toBool_eq_true_iff, Field.accepts_iff_validate element,
    Field.validate]

/-- The elements are gone through up to the first one that no candidate accepts. -/
theorem validateItems_eq_error_iff {candidates : List Field} {items : List Value} {index : Nat} :
    validateItems partially candidates name index items = .error e ↔
      ∃ before v after, items = before ++ v :: after ∧
        (∀ w ∈ before, ∃ c ∈ candidates, c.Accepts partially w) ∧
        (∀ c ∈ candidates, ¬ c.Accepts partially v) ∧
        ⟨name ++ "[" ++ toString (index + before.length) ++ "]", .noMatchingElement⟩ = e := by
  induction items generalizing index with
  | nil => simp [validateItems]
  | cons v rest ih =>
    rw [validateItems, exists_split_cons_iff]
    split
    · next hany =>
      have hv := (any_toBool_validate_iff _).mp hany
      have hmatched : ¬ ∀ c ∈ candidates, ¬ c.Accepts partially v := by
        obtain ⟨c, hc, haccepts⟩ := hv
        exact fun h => h c hc haccepts
      rw [ih, or_iff_right fun h => hmatched h.1, and_iff_right hv]
      simp only [List.length_cons, Nat.add_assoc, Nat.add_comm 1]
    · next hany =>
      have hv : ∀ c ∈ candidates, ¬ c.Accepts partially v :=
        fun c hc h => hany ((any_toBool_validate_iff _).mpr ⟨c, hc, h⟩)
      have hunmatched : ¬ ∃ c ∈ candidates, c.Accepts partially v := by
        rintro ⟨c, hc, haccepts⟩
        exact hv c hc haccepts
      rw [or_iff_left fun h => hunmatched h.1, and_iff_right hv]
      simp

/-- The entries are gone through up to the first one that has no field or is not accepted. -/
theorem validateEntries_eq_error_iff {d : Dict} {es : Mapping} :
    validateEntries partially d name es = .error e ↔
      ∃ before entry after, es = before ++ entry :: after ∧ d.AcceptsAll partially before ∧
        ((d.field? entry.1 = none ∧ ⟨Path.join name entry.1, .undefinedField⟩ = e) ∨
          ∃ f, d.field? entry.1 = some f ∧
            entry.2.validate partially f (Path.join name entry.1) = .error e) := by
  induction es with
  | nil => simp [validateEntries]
  | cons entry rest ih =>
    obtain ⟨key, v⟩ := entry
    simp only [Dict.AcceptsAll] at ih ⊢
    rw [validateEntries, exists_split_cons_iff, ← ih]
    cases hf : d.field? key with
    | none => simp
    | some f =>
      cases hv : v.validate partially f (Path.join name key) with
      | error e' =>
        have hrejected : ¬ f.Accepts partially v := by
          rw [Field.accepts_iff_validate (Path.join name key), Field.validate, hv]
          simp
        simp [hv, hrejected]
      | ok =>
        have haccepts : f.Accepts partially v := (Field.accepts_iff_validate _).mpr hv
        simp [hv, haccepts]

end Value

end TypedDocument
