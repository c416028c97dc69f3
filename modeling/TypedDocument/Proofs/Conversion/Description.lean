import TypedDocument.Conversion.Encoding
import TypedDocument.Proofs.Document.Raw
import TypedDocument.Proofs.Field.Nesting

/-!
# The declaration of a field as JSON

A declaration is made of names, flags, bounds, lengths and defaults. Bounds are of 64 bits, a
bound that is no finite number is written as null, and a default that has no JSON form is not
written at all. So it depends on the lengths alone whether a declaration can be held, and whether
it can be the default of a field for fields.
-/

namespace TypedDocument

/-- A machine word. -/
def IsWord (n : Nat) : Prop := n < 0x10000000000000000

/-- The lengths a kind asks for are machine words. -/
def FieldKind.HasWordLengths : FieldKind → Prop
  | text r => (∀ n, r.length = some n → IsWord n) ∧ (∀ n, r.minLen = some n → IsWord n) ∧
      ∀ n, r.maxLen = some n → IsWord n
  | list _ least most => IsWord least ∧ ∀ n, most = some n → IsWord n
  | _ => True

/-- The lengths a kind asks for satisfy a condition. -/
def FieldKind.LengthsHold (length : Nat → Prop) : FieldKind → Prop
  | text r => (∀ n, r.length = some n → length n) ∧ (∀ n, r.minLen = some n → length n) ∧
      ∀ n, r.maxLen = some n → length n
  | list _ least most => length least ∧ ∀ n, most = some n → length n
  | _ => True

theorem FieldKind.HasWordLengths.lengthsHold {kind : FieldKind} (h : kind.HasWordLengths) :
    kind.LengthsHold IsWord := by
  cases kind <;> exact h

/-- A condition on JSON values that holds of whatever a declaration is made of: names, flags,
bounds, lengths of a certain kind, values that have gone through JSON, and arrays and objects of
these. -/
structure Json.CoversDeclarations (p : Json → Prop) (length : Nat → Prop) : Prop where
  bool : ∀ b, p (.bool b)
  string : ∀ s, p (.string s)
  number : ∀ n : Number, p n.describe
  length : ∀ n, length n → p (.ofNat n)
  array : ∀ items, (∀ j ∈ items, p j) → p (.array items)
  object : ∀ members, (∀ key j, (key, j) ∈ members → p j) → p (.object members)
  encoded : ∀ (v : Value) j, v.toJson = .ok j → p j

/-- Members that satisfy a condition. -/
def MembersHold (p : Json → Prop) (members : List (String × Json)) : Prop :=
  ∀ key j, (key, j) ∈ members → p j

section Members

variable {p : Json → Prop} {length : Nat → Prop} {ms ns : List (String × Json)}

theorem MembersHold.nil : MembersHold p [] := fun _ _ h => by cases h

theorem MembersHold.append (hm : MembersHold p ms) (hn : MembersHold p ns) :
    MembersHold p (ms ++ ns) := by
  intro key j h
  rcases List.mem_append.mp h with h | h
  · exact hm key j h
  · exact hn key j h

theorem MembersHold.cons {key : String} {j : Json} (hj : p j) (hm : MembersHold p ms) :
    MembersHold p ((key, j) :: ms) := by
  intro k i h
  cases h with
  | head => exact hj
  | tail _ h => exact hm k i h

theorem membersHold_optionMember {α : Type} {key : String} {write : α → Json} {o : Option α}
    (h : ∀ a, o = some a → p (write a)) : MembersHold p (optionMember key write o) := by
  cases o with
  | none => exact .nil
  | some a => exact .cons (h a rfl) .nil

variable (hp : Json.CoversDeclarations p length)

include hp

theorem membersHold_flagMember (key : String) (on : Bool) :
    MembersHold p (flagMember key on) := by
  cases on
  · exact .nil
  · exact .cons (hp.bool true) .nil

theorem membersHold_describe_bounds (b : Bounds) : MembersHold p b.describe :=
  .append (membersHold_optionMember fun n _ => hp.number n)
    (membersHold_optionMember fun n _ => hp.number n)

theorem membersHold_describe_textRules {r : TextRules}
    (h : (FieldKind.text r).LengthsHold length) : MembersHold p r.describe := by
  obtain ⟨hlength, hmin, hmax⟩ := h
  refine .append (.append (.append ?_ ?_) ?_) ?_
  · exact membersHold_optionMember fun n hn => hp.length n (hlength n hn)
  · exact membersHold_optionMember fun n hn => hp.length n (hmin n hn)
  · exact membersHold_optionMember fun n hn => hp.length n (hmax n hn)
  · exact membersHold_optionMember fun q _ => hp.string q.source

theorem membersHold_describe_options (o : FieldOptions) (kind : FieldKind) :
    MembersHold p (o.describe kind) := by
  refine .append (.append (.append ?_ ?_) ?_) ?_
  · exact membersHold_flagMember hp _ _
  · exact membersHold_flagMember hp _ _
  · exact membersHold_optionMember fun s _ => hp.string s
  · exact membersHold_optionMember fun s _ => hp.string s

/-- A default that is written has gone through its JSON form. -/
theorem membersHold_describe_default (d : Default) (f : Field) :
    MembersHold p (d.describe f) := by
  cases d with
  | value v =>
    rw [Default.describe]
    split
    · exact .nil
    · split
      · next j hj =>
        obtain ⟨w, _, hw⟩ := Option.bind_eq_some_iff.mp hj
        refine .cons (hp.encoded w j ?_) .nil
        cases hjson : w.toJson <;> simp_all [Except.toOption]
      · exact .nil
  | unset => exact .nil
  | counter => exact .nil

theorem covered_declaration {kind : FieldKind} {options : FieldOptions} (hm : MembersHold p ms)
    (hn : MembersHold p ns) : p (Field.declaration kind options ms ns) := by
  have hoptions := membersHold_describe_options hp options kind
  exact hp.object _ (MembersHold.append (.append (.cons (hp.string _) hm) hoptions) hn)

end Members

/-! ## Declarations of nested fields -/

theorem describeAll_eq_map (fields : List Field) :
    Field.describeAll fields = fields.map Field.describe := by
  induction fields with
  | nil => rfl
  | cons f rest ih => rw [Field.describeAll, List.map_cons, ih]

theorem describeEntries_eq_map (d : Dict) :
    Field.describeEntries d = d.map fun e => (e.1.text, e.2.describeEntry) := by
  induction d with
  | nil => rfl
  | cons e rest ih => rw [Field.describeEntries, List.map_cons, ih]

theorem exists_mem_of_mem_describeEntries {d : Dict} {name : String} {j : Json}
    (h : (name, j) ∈ Field.describeEntries d) :
    ∃ key f, (key, f) ∈ d ∧ key.text = name ∧ f.describeEntry = j := by
  rw [describeEntries_eq_map] at h
  obtain ⟨⟨key, f⟩, hf, heq⟩ := List.mem_map.mp h
  cases heq
  exact ⟨key, f, hf, rfl, rfl⟩

section Nested

variable {p : Json → Prop} {length : Nat → Prop} (hp : Json.CoversDeclarations p length)

include hp

/-- The nested declarations of the entries of a dict. -/
theorem covered_describeEntries {d : Dict} (h : ∀ key f, (key, f) ∈ d → p f.describeEntry) :
    p (.object (Entries.ofList (Field.describeEntries d))) := by
  apply hp.object
  intro name j hj
  obtain ⟨key, f, hf, -, rfl⟩ :=
    exists_mem_of_mem_describeEntries (Entries.mem_of_mem_ofList hj)
  exact h key f hf

theorem membersHold_describeRules {kind : FieldKind} (hkind : kind.LengthsHold length)
    (hlist : ∀ candidates least most, kind = .list candidates least most →
      ∀ c ∈ candidates, p c.describe)
    (hdict : ∀ d : Dict, kind = .dict d → ∀ key f, (key, f) ∈ d → p f.describeEntry) :
    MembersHold p kind.describeRules := by
  cases kind with
  | int b => exact membersHold_describe_bounds hp b
  | long b => exact membersHold_describe_bounds hp b
  | float b => exact membersHold_describe_bounds hp b
  | text r => exact membersHold_describe_textRules hp hkind
  | list candidates least most =>
    rw [FieldKind.describeRules]
    refine .append (.append ?_ ?_) ?_
    · split
      · exact .nil
      · refine .cons (hp.array _ ?_) .nil
        intro j hj
        rw [describeAll_eq_map] at hj
        obtain ⟨c, hc, rfl⟩ := List.mem_map.mp hj
        exact hlist candidates least most rfl c hc
    · split
      · exact .cons (hp.length _ hkind.1) .nil
      · exact .nil
    · exact membersHold_optionMember fun n hn => hp.length n (hkind.2 n hn)
  | dict d => exact .cons (covered_describeEntries hp (hdict d rfl)) .nil
  | _ => exact .nil

/-- What holds of all parts of declarations holds of the declaration of a field, and of that of an
entry. -/
theorem covered_describe_and_describeEntry (f : Field) :
    f.Everywhere (FieldKind.LengthsHold length) → p f.describe ∧ p f.describeEntry := by
  induction f using Field.partInduction with
  | step f ihlist ihdict =>
    intro hf
    have hlist : ∀ candidates least most, f.kind = .list candidates least most →
        ∀ c ∈ candidates, p c.describe := by
      intro candidates least most hk c hc
      exact (ihlist candidates least most hk c hc (hf.candidate hk hc)).1
    have hdict : ∀ d : Dict, f.kind = .dict d → ∀ key c, (key, c) ∈ d → p c.describeEntry := by
      intro d hk key c hc
      exact (ihdict d hk key c hc (hf.dict hk key c hc)).2
    have hrules := membersHold_describeRules hp hf.kind hlist hdict
    obtain ⟨kind, options, default⟩ := f
    have hdeclaration : p (Field.declaration kind options kind.describeRules
        (default.describe (.mk kind options default))) :=
      covered_declaration hp hrules (membersHold_describe_default hp _ _)
    refine ⟨hdeclaration, ?_⟩
    rw [Field.describeEntry]
    split
    · next nested hnested =>
      split at hnested
      · cases kind with
        | dict d =>
          cases hnested
          exact covered_describeEntries hp (hdict d rfl)
        | _ => cases hnested
      · cases hnested
    · exact hdeclaration

end Nested

/-! ## Declarations that can be held -/

theorem inRange_describe_number (n : Number) : n.describe.InRange := by
  cases n with
  | int i => exact Value.inRange_toInt64 i
  | float x =>
    rw [Number.describe, Json.ofFloat]
    split
    · next h => exact .float h
    · exact .null

theorem inRange_coversDeclarations : Json.CoversDeclarations Json.InRange IsWord where
  bool := .bool
  string := .string
  number := inRange_describe_number
  length n h := by
    rw [IsWord] at h
    exact .integer (by omega) (by omega)
  array _ := .array
  object _ := .object
  encoded _ := Value.inRange_of_toJson

theorem inRange_describe {f : Field} (h : f.Everywhere FieldKind.HasWordLengths) :
    f.describe.InRange :=
  (covered_describe_and_describeEntry inRange_coversDeclarations f
    fun g hg => (h g hg).lengthsHold).1

/-! ## Declarations that can be defaults -/

/-- A length that a 64-bit signed integer can hold. -/
def FitsLong (n : Nat) : Prop := n < 0x8000000000000000

instance (n : Nat) : Decidable (FitsLong n) := inferInstanceAs (Decidable (n < _))

theorem stable_describe_number (n : Number) : n.describe.Stable := by
  cases n with
  | int i => exact Json.stable_integer_iff.mpr (fitsInt64_toInt i)
  | float x =>
    rw [Number.describe, Json.ofFloat]
    split
    · next h => exact Json.stable_float_iff.mpr h
    · rfl

theorem stable_ofNat_iff {n : Nat} : (Json.ofNat n).Stable ↔ FitsLong n := by
  rw [Json.ofNat, Json.stable_integer_iff, FitsLong, fitsInt64]
  simp only [Bool.and_eq_true, decide_eq_true_eq]
  omega

theorem stable_coversDeclarations : Json.CoversDeclarations Json.Stable FitsLong where
  bool _ := rfl
  string _ := rfl
  number := stable_describe_number
  length _ := stable_ofNat_iff.mpr
  array _ := Json.stable_array_iff.mpr
  object _ := Json.stable_object_iff.mpr
  encoded _ := Json.stable_of_toJson

/-- A declaration with lengths of 64 signed bits comes back from its raw document as it was. -/
theorem stable_describe {f : Field} (h : f.Everywhere (FieldKind.LengthsHold FitsLong)) :
    f.describe.Stable :=
  (covered_describe_and_describeEntry stable_coversDeclarations f h).1

end TypedDocument
