import TypedDocument.Proofs.Validation.Thinning

/-!
# The first offence

Validation stops at the first offence in document order. Where that is can be said without
running the checks: the keys on the way to it lead through mappings whose earlier entries are all
accepted. At its end stands an entry that no field governs, a value that its own field rejects,
or a mapping without a complaint of its entries that lacks something. The errors of what lies
deeper come up unchanged, and the candidates of a list keep theirs to themselves.
-/

namespace TypedDocument

variable {partially : Bool} {name : String} {e : ValidationError}

/-! ## What single rules reject -/

/-- What bounds hold against a number: that it is none, and else the first bound it violates. -/
inductive Bounds.Rejects (b : Bounds) (n : Number) : Offence → Prop where
  | notANumber (nan : n.isNaN = true) (bounded : b.min ≠ none ∨ b.max ≠ none) :
    Rejects b n .notANumber
  | belowMinimum {low : Number} (number : n.isNaN = false) (min : b.min = some low)
    (below : n.lt low = true) : Rejects b n (.belowMinimum n low)
  | aboveMaximum {high : Number} (number : n.isNaN = false)
    (notBelow : ∀ low, b.min = some low → n.lt low = false) (max : b.max = some high)
    (above : high.lt n = true) : Rejects b n (.aboveMaximum n high)

/-- The first rule a text violates. Its least and greatest length count only where no exact length
is set, and its pattern comes last. -/
inductive TextRules.Rejects (r : TextRules) (s : String) : Offence → Prop where
  | wrongLength {expected : Nat} (length : r.length = some expected) (ne : s.length ≠ expected) :
    Rejects r s (.wrongLength s.length expected)
  | tooShort {least : Nat} (free : r.length = none) (minLen : r.minLen = some least)
    (short : s.length < least) : Rejects r s (.tooShort least)
  | tooLong {most : Nat} (free : r.length = none)
    (notShort : ∀ least, r.minLen = some least → least ≤ s.length) (maxLen : r.maxLen = some most)
    (long : most < s.length) : Rejects r s (.tooLong most)
  | patternMismatch {p : Pattern} (lengths : TextRules.Admits { r with pattern := none } s)
    (pattern : r.pattern = some p) (mismatch : p.matchesStart s = false) :
    Rejects r s (.patternMismatch s p.source)

/-- What the rules of a kind hold against a value of its type. -/
inductive FieldKind.Rejects : FieldKind → Value → Offence → Prop where
  | int {b : Bounds} {i : Int32} {o : Offence} (bounds : b.Rejects (.int i.toInt64) o) :
    Rejects (.int b) (.int i) o
  | long {b : Bounds} {i : Int64} {o : Offence} (bounds : b.Rejects (.int i) o) :
    Rejects (.long b) (.long i) o
  | float {b : Bounds} {x : Float} {o : Offence} (bounds : b.Rejects (.float x) o) :
    Rejects (.float b) (.float x) o
  | text {r : TextRules} {s : String} {o : Offence} (rules : r.Rejects s o) :
    Rejects (.text r) (.text s) o

/-- What a field holds against a value itself: that it is null, its type, the rules of its kind,
the number of its elements, and the first element that every candidate rejects. What lies deeper
in mappings is no matter of the field. -/
inductive Field.Rejects (partially : Bool) (f : Field) (path : String) :
    Value → ValidationError → Prop where
  | null (forbidden : f.nullable = false) : Rejects partially f path .null ⟨path, .nullNotAllowed⟩
  | wrongType {v : Value} (present : v ≠ .null) (refused : f.kind.accepts v = false) :
    Rejects partially f path v ⟨path, .wrongType f.kind.name v.type⟩
  | rules {v : Value} {o : Offence} (rejected : f.kind.Rejects v o) :
    Rejects partially f path v ⟨path, o⟩
  | tooFew {items : List Value} {candidates : List Field} {least : Nat} {most : Option Nat}
    (kind : f.kind = .list candidates least most) (few : items.length < least) :
    Rejects partially f path (.list items) ⟨path, .tooFewElements items.length least⟩
  | tooMany {items : List Value} {candidates : List Field} {least most : Nat}
    (kind : f.kind = .list candidates least (some most)) (enough : least ≤ items.length)
    (many : most < items.length) :
    Rejects partially f path (.list items) ⟨path, .tooManyElements items.length most⟩
  | element {before after : List Value} {v : Value} {candidates : List Field} {least : Nat}
    {most : Option Nat} (kind : f.kind = .list candidates least most)
    (enough : least ≤ (before ++ v :: after).length)
    (notTooMany : ∀ n, most = some n → (before ++ v :: after).length ≤ n)
    (choice : candidates ≠ []) (matched : ∀ w ∈ before, ∃ c ∈ candidates, c.Accepts partially w)
    (unmatched : ∀ c ∈ candidates, ¬ c.Accepts partially v) :
    Rejects partially f path (.list (before ++ v :: after))
      ⟨path ++ "[" ++ toString before.length ++ "]", .noMatchingElement⟩

/-! ## The way to an offence -/

/-- The keys lead from a mapping to one within it. Each is governed by a field for mappings, and
the entries before it are all accepted. -/
inductive Dict.LeadsTo (partially : Bool) :
    Dict → Mapping → List String → Dict → Mapping → Prop where
  | here {d : Dict} {es : Mapping} : LeadsTo partially d es [] d es
  | down {d d' target : Dict} {before sub after es : Mapping} {key : String} {keys : List String}
    {f : Field} (earlier : d.AcceptsAll partially before) (governed : d.field? key = some f)
    (kind : f.kind = .dict d') (further : LeadsTo partially d' sub keys target es) :
    LeadsTo partially d (before ++ (key, .map sub) :: after) (key :: keys) target es

/-- Whether a mapping with some keys has what is declared under a key. A key type asks for a key
of its type that has no declaration of its own. -/
def Dict.SatisfiedBy (d : Dict) (keys : List String) : SchemaKey → Prop
  | .name n => n ∈ keys
  | .type t => ∃ k ∈ keys, KeyType.ofKey k = t ∧ d.get? (.name k) = none

/-- The error for a declared key that a mapping lacks. -/
def SchemaKey.lackError (path : String) : SchemaKey → ValidationError
  | .name n => ⟨Path.join path n, .missingField⟩
  | .type t => ⟨path, .missingTypeKey t⟩

/-- The first declared key that is not optional and that a mapping with some keys lacks. -/
inductive Dict.FirstLack (d : Dict) (keys : List String) : SchemaKey → Prop where
  | intro {before after : Dict} {key : SchemaKey} {f : Field}
    (split : d = before ++ (key, f) :: after)
    (earlier : ∀ k g, (k, g) ∈ before → g.optional = true ∨ d.SatisfiedBy keys k)
    (required : f.optional = false) (lacking : ¬ d.SatisfiedBy keys key) : FirstLack d keys key

/-- The last of the keys is governed by no field. The entries before it are accepted. -/
inductive Dict.UnknownAt (partially : Bool) (d : Dict) (path : String) (es : Mapping) :
    List String → ValidationError → Prop where
  | intro {parents : List String} {key : String} {v : Value} {target : Dict}
    {before after : Mapping}
    (leads : d.LeadsTo partially es parents target (before ++ (key, v) :: after))
    (earlier : target.AcceptsAll partially before) (unknown : target.field? key = none) :
    UnknownAt partially d path es (parents ++ [key])
      ⟨(parents ++ [key]).foldl Path.join path, .undefinedField⟩

/-- The value under the last of the keys is rejected by the field that governs it. The entries
before it are accepted. -/
inductive Dict.RejectedAt (partially : Bool) (d : Dict) (path : String) (es : Mapping) :
    List String → ValidationError → Prop where
  | intro {parents : List String} {key : String} {v : Value} {target : Dict}
    {before after : Mapping} {f : Field} {e : ValidationError}
    (leads : d.LeadsTo partially es parents target (before ++ (key, v) :: after))
    (earlier : target.AcceptsAll partially before) (governed : target.field? key = some f)
    (rejected : f.Rejects partially ((parents ++ [key]).foldl Path.join path) v e) :
    RejectedAt partially d path es (parents ++ [key]) e

/-- The mapping under the keys has accepted entries only and lacks a declared key. -/
inductive Dict.LackingAt (partially : Bool) (d : Dict) (path : String) (es : Mapping) :
    List String → ValidationError → Prop where
  | intro {keys : List String} {target : Dict} {entries : Mapping} {key : SchemaKey}
    (leads : d.LeadsTo partially es keys target entries)
    (accepted : target.AcceptsAll partially entries) (complete : partially = false)
    (lack : target.FirstLack (Entries.keys entries) key) :
    LackingAt partially d path es keys (key.lackError (keys.foldl Path.join path))

/-! ## The checks of single rules -/

theorem Bounds.offence?_eq_some_iff {b : Bounds} {n : Number} {o : Offence} :
    b.offence? n = some o ↔ b.Rejects n o := by
  obtain ⟨min, max⟩ := b
  constructor
  · intro h
    rw [offence?] at h
    split at h
    · next hnan =>
      cases h
      simp only [Bool.and_eq_true, Bool.or_eq_true, Option.isSome_iff_ne_none] at hnan
      exact .notANumber hnan.1 hnan.2
    · next hnan =>
      split at h
      · next low _ hlow =>
        cases h
        obtain ⟨rfl, hlt⟩ := Option.filter_eq_some_iff.mp hlow
        exact .belowMinimum (by simpa using hnan) rfl hlt
      · next high hmin hhigh =>
        cases h
        obtain ⟨rfl, hlt⟩ := Option.filter_eq_some_iff.mp hhigh
        refine .aboveMaximum (by simpa using hnan) ?_ rfl hlt
        rintro low rfl
        simpa using Option.filter_eq_none_iff.mp hmin low
      · cases h
  · intro h
    cases h with
    | notANumber nan bounded =>
      have hset : (min.isSome || max.isSome) = true := by
        simpa [Option.isSome_iff_ne_none] using bounded
      simp [offence?, nan, hset]
    | belowMinimum number hmin below => simp_all [offence?, Option.filter]
    | aboveMaximum number notBelow hmax above =>
      have hmin : min.filter n.lt = none := Option.filter_eq_none_iff.mpr (by simpa using notBelow)
      simp_all [offence?, Option.filter]

theorem TextRules.admits_without_pattern_iff {r : TextRules} {s : String} :
    TextRules.Admits { r with pattern := none } s ↔ r.lengthOffence? s.length = none := by
  rw [lengthOffence?_eq_none_iff]
  constructor
  · rintro ⟨hlength, hmin, hmax, -⟩
    exact ⟨hlength, hmin, hmax⟩
  · rintro ⟨hlength, hmin, hmax⟩
    exact ⟨hlength, hmin, hmax, by simp⟩

theorem TextRules.offence?_eq_some_iff {r : TextRules} {s : String} {o : Offence} :
    r.offence? s = some o ↔ r.Rejects s o := by
  constructor
  · intro h
    rw [offence?, Option.or_eq_some_iff] at h
    rcases h with h | ⟨hlengths, h⟩
    · rw [lengthOffence?] at h
      split at h
      · next expected hlength =>
        split at h
        · cases h
        · next hne =>
          cases h
          exact .wrongLength hlength hne
      · next hfree =>
        split at h
        · next least _ hleast =>
          cases h
          obtain ⟨hmin, hlt⟩ := Option.filter_eq_some_iff.mp hleast
          exact .tooShort hfree hmin (by simpa using hlt)
        · next most hmin hmost =>
          cases h
          obtain ⟨hmax, hlt⟩ := Option.filter_eq_some_iff.mp hmost
          refine .tooLong hfree (fun least hleast => ?_) hmax (by simpa using hlt)
          simpa using Option.filter_eq_none_iff.mp hmin least hleast
        · cases h
    · rw [patternOffence?] at h
      split at h
      · next p hp =>
        split at h
        · cases h
        · next hmismatch =>
          cases h
          exact .patternMismatch (admits_without_pattern_iff.mpr hlengths) hp
            (by simpa using hmismatch)
      · cases h
  · intro h
    rw [offence?]
    cases h with
    | wrongLength length ne => simp [lengthOffence?, length, ne]
    | tooShort free minLen short => simp [lengthOffence?, free, minLen, short, Option.filter]
    | tooLong free notShort maxLen long =>
      have hmin : r.minLen.filter (s.length < ·) = none :=
        Option.filter_eq_none_iff.mpr fun least hleast => by simpa using notShort least hleast
      have hmax : r.maxLen.filter (· < s.length) = r.maxLen := by simp [maxLen, Option.filter, long]
      rw [lengthOffence?, free]
      dsimp only
      rw [hmin, hmax, maxLen]
      rfl
    | patternMismatch lengths pattern mismatch =>
      rw [admits_without_pattern_iff.mp lengths]
      simp [patternOffence?, pattern, mismatch]

/-- The check of a value that is no container finds a wrong type, and else what the rules of the
kind hold against it. -/
theorem FieldKind.offence?_eq_some_iff {kind : FieldKind} {v : Value} {o : Offence} :
    kind.offence? v = some o ↔
      (kind.accepts v = false ∧ .wrongType kind.name v.type = o) ∨ kind.Rejects v o := by
  unfold offence?
  cases haccepts : kind.accepts v with
  | false =>
    have hrules : ¬ kind.Rejects v o := by
      intro h
      cases h <;> cases haccepts
    simp [hrules]
  | true =>
    constructor
    · intro h
      simp only [Bool.not_true, Bool.false_eq_true, if_false] at h
      split at h
      · exact .inr (.int (Bounds.offence?_eq_some_iff.mp h))
      · exact .inr (.long (Bounds.offence?_eq_some_iff.mp h))
      · exact .inr (.float (Bounds.offence?_eq_some_iff.mp h))
      · exact .inr (.text (TextRules.offence?_eq_some_iff.mp h))
      · cases h
    · rintro (⟨hfalse, -⟩ | h)
      · cases hfalse
      · cases h with
        | int bounds => exact Bounds.offence?_eq_some_iff.mpr bounds
        | long bounds => exact Bounds.offence?_eq_some_iff.mpr bounds
        | float bounds => exact Bounds.offence?_eq_some_iff.mpr bounds
        | text rules => exact TextRules.offence?_eq_some_iff.mpr rules

/-- The rules of kinds are about numbers and texts. -/
theorem FieldKind.Rejects.present {kind : FieldKind} {v : Value} {o : Offence}
    (h : kind.Rejects v o) : v ≠ .null ∧ v.isContainer = false := by
  cases h <;> exact ⟨by simp, rfl⟩

theorem FieldKind.Rejects.offence {kind : FieldKind} {v : Value} {o : Offence}
    (h : kind.Rejects v o) : o ≠ .undefinedField ∧ o.isLack = false := by
  cases h with
  | int bounds | long bounds | float bounds => cases bounds <;> exact ⟨by simp, rfl⟩
  | text rules => cases rules <;> exact ⟨by simp, rfl⟩

/-- The offences of entries as such are not those of values. -/
theorem Field.Rejects.offence {f : Field} {v : Value} (h : f.Rejects partially name v e) :
    e.offence ≠ .undefinedField ∧ e.offence.isLack = false := by
  cases h with
  | rules rejected => exact rejected.offence
  | _ => exact ⟨by simp, rfl⟩

/-- What a field holds against a value itself is not about the entries of a mapping. -/
theorem Field.Rejects.not_mapping {f : Field} {v : Value} (h : f.Rejects partially name v e) :
    ∀ es d, v = .map es → f.kind ≠ .dict d := by
  rintro es d rfl hk
  cases h with
  | wrongType _ refused => simp [hk, FieldKind.accepts] at refused
  | rules rejected => cases rejected.present.2

theorem FieldKind.countOffence?_eq_some_iff {least count : Nat} {most : Option Nat} {o : Offence} :
    countOffence? least most count = some o ↔
      (count < least ∧ .tooFewElements count least = o) ∨
        least ≤ count ∧ ∃ n, most = some n ∧ n < count ∧ .tooManyElements count n = o := by
  unfold countOffence?
  split
  · next hfew => simp [hfew, Nat.not_le.mpr hfew]
  · next hfew =>
    cases most with
    | none => simp [hfew]
    | some n => simp [hfew, Nat.not_lt.mp hfew]

/-! ## The check of one value -/

namespace Value

variable {v : Value} {f : Field}

/-- A value that is not taken apart is rejected for its type or by the rules of the kind. -/
theorem report_offence?_eq_error_iff (present : v ≠ .null)
    (hlist : ∀ items candidates least most, v = .list items →
      f.kind ≠ .list candidates least most) :
    report name (f.kind.offence? v) = .error e ↔ f.Rejects partially name v e := by
  constructor
  · intro h
    obtain ⟨o, ho, rfl⟩ := report_eq_error_iff.mp h
    rcases FieldKind.offence?_eq_some_iff.mp ho with ⟨refused, rfl⟩ | rejected
    · exact .wrongType present refused
    · exact .rules rejected
  · intro h
    cases h with
    | null => exact absurd rfl present
    | wrongType _ refused =>
      exact report_eq_error_iff.mpr
        ⟨_, FieldKind.offence?_eq_some_iff.mpr (.inl ⟨refused, rfl⟩), rfl⟩
    | rules rejected =>
      exact report_eq_error_iff.mpr ⟨_, FieldKind.offence?_eq_some_iff.mpr (.inr rejected), rfl⟩
    | tooFew kind => exact absurd kind (hlist _ _ _ _ rfl)
    | tooMany kind => exact absurd kind (hlist _ _ _ _ rfl)
    | element kind => exact absurd kind (hlist _ _ _ _ rfl)

theorem validate_list_eq_error_iff {items : List Value} {candidates : List Field} {least : Nat}
    {most : Option Nat} (hk : f.kind = .list candidates least most) :
    (list items).validate partially f name = .error e ↔
      f.Rejects partially name (list items) e := by
  constructor
  · intro h
    simp only [validate, hk] at h
    cases hcount : FieldKind.countOffence? least most items.length with
    | some o =>
      rw [hcount] at h
      cases h
      rcases FieldKind.countOffence?_eq_some_iff.mp hcount with
        ⟨few, rfl⟩ | ⟨enough, n, rfl, many, rfl⟩
      · exact .tooFew hk few
      · exact .tooMany hk enough many
    | none =>
      rw [hcount, report, ok_bind] at h
      obtain ⟨enough, notTooMany⟩ := FieldKind.countOffence?_eq_none_iff.mp hcount
      split at h
      · cases h
      · next choice =>
        obtain ⟨before, v, after, rfl, matched, unmatched, rfl⟩ := validateItems_eq_error_iff.mp h
        rw [Nat.zero_add]
        exact .element hk enough notTooMany (by simpa using choice) matched unmatched
  · intro h
    simp only [validate, hk]
    cases h with
    | wrongType _ refused => simp [hk, FieldKind.accepts] at refused
    | rules rejected => cases rejected.present.2
    | tooFew kind few =>
      cases hk.symm.trans kind
      rw [FieldKind.countOffence?_eq_some_iff.mpr (.inl ⟨few, rfl⟩)]
      rfl
    | tooMany kind enough many =>
      cases hk.symm.trans kind
      rw [FieldKind.countOffence?_eq_some_iff.mpr (.inr ⟨enough, _, rfl, many, rfl⟩)]
      rfl
    | element kind enough notTooMany choice matched unmatched =>
      cases hk.symm.trans kind
      rw [FieldKind.countOffence?_eq_none_iff.mpr ⟨enough, notTooMany⟩, report, ok_bind]
      rw [if_neg (by simpa using choice)]
      exact validateItems_eq_error_iff.mpr
        ⟨_, _, _, rfl, matched, unmatched, by rw [Nat.zero_add]⟩

/-- A value that is no mapping under a field for mappings fails by what its field holds against
it. -/
theorem validate_eq_error_iff_rejects (hmap : ∀ es d, v = .map es → f.kind ≠ .dict d) :
    v.validate partially f name = .error e ↔ f.Rejects partially name v e := by
  cases v with
  | null =>
    rw [validate, report_eq_error_iff]
    constructor
    · rintro ⟨o, ho, rfl⟩
      split at ho
      · cases ho
      · next forbidden =>
        cases ho
        exact .null (by simpa using forbidden)
    · intro h
      cases h with
      | null forbidden => exact ⟨_, by rw [forbidden]; rfl, rfl⟩
      | wrongType present => exact absurd rfl present
      | rules rejected => exact absurd rfl rejected.present.1
  | list items =>
    rcases f.kind.eq_list_or_ne with ⟨candidates, least, most, hk⟩ | hne
    · exact validate_list_eq_error_iff hk
    · rw [validate_list_of_kind_ne hne]
      exact report_offence?_eq_error_iff (by simp) fun _ _ _ _ _ => hne _ _ _
  | map es =>
    rw [validate_map_of_kind_ne fun d => hmap es d rfl]
    exact report_offence?_eq_error_iff (by simp) (by simp)
  | _ =>
    rw [validate_leaf rfl (by simp)]
    exact report_offence?_eq_error_iff (by simp) (by simp)

end Value

/-! ## The check of a mapping -/

@[simp] theorem SchemaKey.isLack_lackError (key : SchemaKey) (path : String) :
    (key.lackError path).offence.isLack = true := by
  cases key <;> rfl

theorem Dict.lack?_eq_none_iff_satisfied {d : Dict} {keys : List String} {key : SchemaKey}
    {f : Field} :
    d.lack? name keys key f = none ↔ f.optional = true ∨ d.SatisfiedBy keys key := by
  rw [lack?_eq_none_iff, ← Bool.not_eq_false, ← Decidable.imp_iff_not_or]
  cases key <;> exact Iff.rfl

theorem Dict.lack?_eq_some_iff {d : Dict} {keys : List String} {key : SchemaKey} {f : Field} :
    d.lack? name keys key f = some e ↔
      (f.optional = false ∧ ¬ d.SatisfiedBy keys key) ∧ key.lackError name = e := by
  have herror : ∀ e, d.lack? name keys key f = some e → key.lackError name = e := by
    intro e h
    unfold lack? at h
    split at h
    · cases h
    · cases key <;> (dsimp only at h; split at h <;> cases h; rfl)
  have hlacking : d.lack? name keys key f ≠ none ↔
      f.optional = false ∧ ¬ d.SatisfiedBy keys key := by
    rw [Ne, lack?_eq_none_iff_satisfied, not_or, Bool.not_eq_true]
  rw [← hlacking]
  constructor
  · exact fun h => ⟨by simp [h], herror e h⟩
  · rintro ⟨hne, rfl⟩
    obtain ⟨e, he⟩ := Option.ne_none_iff_exists'.mp hne
    rw [he, herror e he]

theorem Dict.firstLack?_eq_some_iff {d : Dict} {keys : List String} :
    d.firstLack? name keys = some e ↔ ∃ key, d.FirstLack keys key ∧ key.lackError name = e := by
  rw [firstLack?, List.findSome?_eq_some_iff]
  constructor
  · rintro ⟨before, ⟨key, f⟩, after, split, hlack, hbefore⟩
    obtain ⟨⟨required, lacking⟩, he⟩ := lack?_eq_some_iff.mp hlack
    refine ⟨key, .intro split (fun k g hk => ?_) required lacking, he⟩
    exact lack?_eq_none_iff_satisfied.mp (hbefore (k, g) hk)
  · rintro ⟨key, ⟨split, earlier, required, lacking⟩, he⟩
    refine ⟨_, _, _, split, lack?_eq_some_iff.mpr ⟨⟨required, lacking⟩, he⟩, ?_⟩
    rintro ⟨k, g⟩ hk
    exact lack?_eq_none_iff_satisfied.mpr (earlier k g hk)

namespace Value

/-- Beside the entries of a mapping counts what it lacks, and that only if they are all accepted. -/
theorem validate_map_eq_error_iff {d : Dict} {f : Field} {es : Mapping} (hk : f.kind = .dict d) :
    (map es).validate partially f name = .error e ↔
      validateEntries partially d name es = .error e ∨
        d.AcceptsAll partially es ∧ partially = false ∧
          ∃ key, d.FirstLack (Entries.keys es) key ∧ key.lackError name = e := by
  rw [d.acceptsAll_iff name, ← Dict.firstLack?_eq_some_iff]
  simp only [validate, hk]
  cases validateEntries partially d name es with
  | error e' => simp
  | ok =>
    cases partially with
    | true => simp
    | false =>
      cases d.firstLack? name (Entries.keys es) <;>
        simp [throw, throwThe, MonadExceptOf.throw]

end Value

/-! ## The offence that is reported -/

namespace Dict

variable {d : Dict} {es : Mapping} {keys : List String}

/-- What validation may come upon along some keys. -/
def FoundAt (partially : Bool) (d : Dict) (path : String) (es : Mapping) (keys : List String)
    (e : ValidationError) : Prop :=
  d.UnknownAt partially path es keys e ∨ d.RejectedAt partially path es keys e ∨
    d.LackingAt partially path es keys e

/-- What is found in a nested mapping is found from the mapping around it. -/
theorem FoundAt.down {d' : Dict} {before sub after : Mapping} {key : String} {f : Field}
    (earlier : d.AcceptsAll partially before) (governed : d.field? key = some f)
    (kind : f.kind = .dict d')
    (h : d'.FoundAt partially (Path.join name key) sub keys e) :
    d.FoundAt partially name (before ++ (key, .map sub) :: after) (key :: keys) e := by
  rcases h with h | h | h
  · obtain ⟨leads, clean, unknown⟩ := h
    exact .inl (.intro (.down earlier governed kind leads) clean unknown)
  · obtain ⟨leads, clean, own, rejected⟩ := h
    exact .inr (.inl (.intro (.down earlier governed kind leads) clean own rejected))
  · obtain ⟨leads, accepted, complete, lack⟩ := h
    exact .inr (.inr (.intro (.down earlier governed kind leads) accepted complete lack))

/-- An error of a mapping comes up unchanged along keys that lead to it. -/
theorem LeadsTo.validate {target : Dict} {entries : Mapping}
    (leads : d.LeadsTo partially es keys target entries) :
    ∀ {f name}, f.kind = .dict d →
      (∀ g : Field, g.kind = .dict target →
        (Value.map entries).validate partially g (keys.foldl Path.join name) = .error e) →
      (Value.map es).validate partially f name = .error e := by
  induction leads with
  | here => exact fun hk h => h _ hk
  | down earlier governed kind _ ih =>
    intro f name hk h
    refine (Value.validate_map_eq_error_iff hk).mpr (.inl ?_)
    exact Value.validateEntries_eq_error_iff.mpr
      ⟨_, _, _, rfl, earlier, .inr ⟨_, governed, ih kind h⟩⟩

theorem exists_foundAt_of_validate {es : Mapping} :
    ∀ {d : Dict} {f : Field} {name : String}, f.kind = .dict d →
      (Value.map es).validate partially f name = .error e →
        ∃ keys, d.FoundAt partially name es keys e := by
  induction es using Value.nestedInduction with
  | step es ih =>
    intro d f name hk h
    rcases (Value.validate_map_eq_error_iff hk).mp h with h | ⟨accepted, complete, key, lack, rfl⟩
    · obtain ⟨before, ⟨key, v⟩, after, rfl, earlier, hv⟩ :=
        Value.validateEntries_eq_error_iff.mp h
      rcases hv with ⟨unknown, rfl⟩ | ⟨g, governed, hv⟩
      · exact ⟨[key], .inl (.intro .here earlier unknown)⟩
      -- Only a mapping under a field for mappings has errors of its entries; what else there is
      -- can be rejected for itself alone.
      · by_cases hmap : ∃ sub d', v = .map sub ∧ g.kind = .dict d'
        · obtain ⟨sub, d', rfl, kind⟩ := hmap
          obtain ⟨keys, found⟩ := ih key sub (by simp) kind hv
          exact ⟨key :: keys, found.down earlier governed kind⟩
        · have hplain : ∀ sub d', v = .map sub → g.kind ≠ .dict d' :=
            fun sub d' hv hk => hmap ⟨sub, d', hv, hk⟩
          have rejected := (Value.validate_eq_error_iff_rejects hplain).mp hv
          exact ⟨[key], .inr (.inl (.intro .here earlier governed rejected))⟩
    · exact ⟨[], .inr (.inr (.intro .here accepted complete lack))⟩

theorem FoundAt.validate {f : Field} (hk : f.kind = .dict d)
    (h : d.FoundAt partially name es keys e) :
    (Value.map es).validate partially f name = .error e := by
  rcases h with h | h | h
  · obtain ⟨leads, earlier, unknown⟩ := h
    refine leads.validate hk fun g hg => (Value.validate_map_eq_error_iff hg).mpr (.inl ?_)
    exact Value.validateEntries_eq_error_iff.mpr
      ⟨_, _, _, rfl, earlier, .inl ⟨unknown, by simp⟩⟩
  · obtain ⟨leads, earlier, governed, rejected⟩ := h
    refine leads.validate hk fun g hg => (Value.validate_map_eq_error_iff hg).mpr (.inl ?_)
    have hv := (Value.validate_eq_error_iff_rejects rejected.not_mapping).mpr rejected
    rw [List.foldl_append, List.foldl_cons, List.foldl_nil] at hv
    exact Value.validateEntries_eq_error_iff.mpr
      ⟨_, _, _, rfl, earlier, .inr ⟨_, governed, hv⟩⟩
  · obtain ⟨leads, accepted, complete, lack⟩ := h
    exact leads.validate hk fun g hg => (Value.validate_map_eq_error_iff hg).mpr
      (.inr ⟨accepted, complete, _, lack, rfl⟩)

theorem UnknownAt.offence (h : d.UnknownAt partially name es keys e) :
    e.offence = .undefinedField := by
  cases h
  rfl

theorem RejectedAt.offence (h : d.RejectedAt partially name es keys e) :
    e.offence ≠ .undefinedField ∧ e.offence.isLack = false := by
  obtain ⟨-, -, -, rejected⟩ := h
  exact rejected.offence

theorem LackingAt.offence (h : d.LackingAt partially name es keys e) :
    e.offence.isLack = true := by
  cases h
  exact SchemaKey.isLack_lackError _ _

end Dict

/-- Exactly one of three statements holds. -/
def ExactlyOne (a b c : Prop) : Prop :=
  (a ∧ ¬ b ∧ ¬ c) ∨ (¬ a ∧ b ∧ ¬ c) ∨ (¬ a ∧ ¬ b ∧ c)

theorem exactlyOne_iff {a b c : Prop} (hab : a → ¬ b) (hac : a → ¬ c) (hbc : b → ¬ c) :
    ExactlyOne a b c ↔ a ∨ b ∨ c := by
  simp only [ExactlyOne]
  grind

/-- What is found along some keys is of one sort only, as its offence tells. -/
theorem Dict.exactlyOne_iff_foundAt {d : Dict} {es : Mapping} {keys : List String} :
    ExactlyOne (d.UnknownAt partially name es keys e) (d.RejectedAt partially name es keys e)
      (d.LackingAt partially name es keys e) ↔ d.FoundAt partially name es keys e := by
  refine exactlyOne_iff (fun ha hb => hb.offence.1 ha.offence) (fun ha hc => ?_) fun hb hc => ?_
  · have hlack := hc.offence
    rw [ha.offence] at hlack
    cases hlack
  · cases hb.offence.2.symm.trans hc.offence

/-- Validation reports the first offence in document order, at its path. A document fails with an
error exactly if some keys lead to it through mappings whose earlier entries are all accepted, and
then exactly one of three holds: the last key is governed by no field, the value under it is
rejected by its own field, or the entries of the mapping under the keys are all accepted and it is
the first declared key missing among them. -/
theorem Schema.validate_eq_error_iff (s : Schema) (es : Mapping) (partially : Bool)
    (e : ValidationError) :
    s.validate (.map es) partially = .error e ↔
      ∃ keys, ExactlyOne (s.root.UnknownAt partially "" es keys e)
        (s.root.RejectedAt partially "" es keys e) (s.root.LackingAt partially "" es keys e) := by
  have hvalidate : s.validate (.map es) partially =
      (Value.map es).validate partially (Field.dict s.root) "" := rfl
  have hk : (Field.dict s.root).kind = .dict s.root := rfl
  simp only [Dict.exactlyOne_iff_foundAt, hvalidate]
  constructor
  · exact Dict.exists_foundAt_of_validate hk
  · rintro ⟨keys, found⟩
    exact found.validate hk

/-- The outer mapping lacks `b`, but its entries come first. -/
example : (Schema.ofDict [(.name "b", .int), (.name "a", .dict [(.name "x", .int)])]).validate
    (.map [("a", .map [("x", .int 1), ("y", .null)])]) false =
      .error ⟨"a.y", .undefinedField⟩ := by
  rfl

end TypedDocument
