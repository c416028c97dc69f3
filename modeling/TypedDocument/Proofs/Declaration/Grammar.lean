import TypedDocument.Declaration.Reader
import TypedDocument.Proofs.Declaration.Options
import TypedDocument.Proofs.Reordering.Json

/-!
# The grammar of declarations

What declares a field, the entries of a nested mapping or a schema, said without reading anything:
which options each type has, which form each option takes, and how declarations nest. The default of
a field is the one option whose form depends on the others. It is decoded by the field that the rest
of the declaration declares.
-/

namespace TypedDocument

/-- A JSON value as it is read from a text: its numbers can be held, and no object has a key
twice. -/
structure Json.WellFormed (j : Json) : Prop where
  inRange : j.InRange
  proper : j.Proper

namespace Json.WellFormed

theorem item {items : List Json} {j : Json} (h : (Json.array items).WellFormed) (hj : j ∈ items) :
    j.WellFormed where
  inRange := by
    cases h.inRange with
    | array inRange => exact inRange j hj
  proper := h.proper.item hj

theorem distinct {ms : List (String × Json)} (h : (Json.object ms).WellFormed) :
    Entries.Distinct ms :=
  h.proper.distinct

theorem member {ms : List (String × Json)} {key : String} {j : Json}
    (h : (Json.object ms).WellFormed) (hj : (key, j) ∈ ms) : j.WellFormed where
  inRange := by
    cases h.inRange with
    | object inRange => exact inRange key j hj
  proper := h.proper.member hj

end Json.WellFormed

namespace Declaration

/-! ## The grammar -/

/-- The types of fields. -/
def typeNames : List String :=
  ["any", "field", "none", "bool", "int", "long", "float", "text", "uuid", "email", "datetime",
    "date", "time", "list", "dict"]

def numericTypes : List String := ["int", "long", "float"]

def textualTypes : List String := ["text", "uuid", "email"]

/-- The forms that the values of options take. -/
inductive OptionForm where
  | flag
  | text
  | number
  | length
  | pattern
  /-- A value that is read on its own: a default, or further declarations. -/
  | value
deriving DecidableEq

/-- A value has a form. -/
def OptionForm.Holds : OptionForm → Json → Prop
  | flag, j => ∃ b, j = .bool b
  | text, j => ∃ s, j = .string s
  | number, j => (∃ i, j = .integer i) ∨ ∃ x, j = .float x
  | length, j => ∃ n : Nat, n < 0x10000000000000000 ∧ j = .integer n
  | pattern, j => ∃ s, j = .string s ∧ (Pattern.compile? s).isSome = true
  | value, _ => True

/-- The options of the fields of a type. -/
def optionForms (typeName : String) : List (String × OptionForm) :=
  [("optional", .flag), ("can_be_none", .flag), ("title", .text), ("description", .text),
    ("default", .value)] ++
  (if typeName ∈ numericTypes then [("min", .number), ("max", .number)] else []) ++
  (if typeName ∈ textualTypes then
    [("length", .length), ("match", .pattern), ("min_len", .length), ("max_len", .length)]
  else []) ++
  (if typeName = "list" then [("min_len", .length), ("max_len", .length), ("fields", .value)]
  else []) ++
  (if typeName = "dict" then [("schema", .value)] else [])

mutual

/-- The declarations of fields. -/
inductive FieldDeclaration : Json → Prop where
  | mk {members : List (String × Json)} {typeName : String}
    (type : Entries.get? "type" members = some (.string typeName)) (known : typeName ∈ typeNames)
    (options : ∀ option j, (option, j) ∈ members → option ≠ "type" →
      ∃ form, (option, form) ∈ optionForms typeName ∧ form.Holds j)
    (fields : typeName = "list" → ∀ j, ("fields", j) ∈ members → CandidatesDeclaration j)
    (schema : typeName = "dict" → ∀ j, ("schema", j) ∈ members → NestedDeclaration j)
    (default : ∀ j, ("default", j) ∈ members →
      ∃ f, readField (.object (Entries.erase "default" members)) = .ok f ∧
        ∃ v, f.decode (Value.ofJson j) = .ok v) :
    FieldDeclaration (.object members)

/-- The declarations of the candidates of a list: an array of them, or a single one. -/
inductive CandidatesDeclaration : Json → Prop where
  | array {items : List Json} (each : ∀ j ∈ items, FieldDeclaration j) :
    CandidatesDeclaration (.array items)
  | single {j : Json} (field : FieldDeclaration j) : CandidatesDeclaration j

/-- The declarations of nested mappings: objects of entries that have no text under `type`. -/
inductive NestedDeclaration : Json → Prop where
  | mk {members : List (String × Json)}
    (untyped : ∀ name, Entries.get? "type" members ≠ some (.string name))
    (entries : ∀ key j, (key, j) ∈ members → EntryDeclaration j) :
    NestedDeclaration (.object members)

/-- The declarations of entries. -/
inductive EntryDeclaration : Json → Prop where
  | field {j : Json} (declaration : FieldDeclaration j) : EntryDeclaration j
  | nested {j : Json} (declaration : NestedDeclaration j) : EntryDeclaration j

end

/-- The declarations of schemas. -/
inductive SchemaDeclaration : Json → Prop where
  | mk {members : List (String × Json)}
    (headings : ∀ key j, (key, j) ∈ members → key = "$title" ∨ key = "$description" →
      ∃ s, j = .string s)
    (entries : ∀ key j, (key, j) ∈ members → key ≠ "$title" → key ≠ "$description" →
      EntryDeclaration j) :
    SchemaDeclaration (.object members)

variable {typeName option : String} {j : Json} {kind : FieldKind}

/-! ## Options -/

/-- What the options of a declaration depend on: the kind that goes with a type. -/
structure Suits (typeName : String) (kind : FieldKind) : Prop where
  bounds : hasBounds kind = true ↔ typeName ∈ numericTypes
  rules : hasRules kind = true ↔ typeName ∈ textualTypes
  list : isList kind = true ↔ typeName = "list"

@[simp] theorem holds_flag_iff : OptionForm.flag.Holds j ↔ (flag? j).isSome = true := by
  cases j <;> simp [OptionForm.Holds, flag?]

@[simp] theorem holds_text_iff : OptionForm.text.Holds j ↔ j.string?.isSome = true := by
  cases j <;> simp [OptionForm.Holds, Json.string?]

@[simp] theorem holds_number_iff : OptionForm.number.Holds j ↔ (bound? j).isSome = true := by
  cases j <;> simp [OptionForm.Holds, bound?]

theorem holds_length_iff (hj : j.InRange) :
    OptionForm.length.Holds j ↔ (length? j).isSome = true := by
  cases hj with
  | @integer i low high =>
    cases i with
    | ofNat n =>
      have hn : n < 0x10000000000000000 := Int.ofNat_lt.mp high
      exact ⟨fun _ => rfl, fun _ => ⟨n, hn, rfl⟩⟩
    | negSucc n => simp [OptionForm.Holds, length?]
  | _ => simp [OptionForm.Holds, length?]

@[simp] theorem holds_pattern_iff : OptionForm.pattern.Holds j ↔ (pattern? j).isSome = true := by
  cases j <;> simp [OptionForm.Holds, pattern?, Json.string?]

/-- The options that are admitted are those of the grammar. -/
theorem admits_iff (hsuits : Suits typeName kind) (hj : j.InRange) (htype : option ≠ "type") :
    Admits typeName kind option j = true ↔
      ∃ form, (option, form) ∈ optionForms typeName ∧ form.Holds j := by
  have hvalue : OptionForm.value.Holds j := trivial
  obtain ⟨hbounds, hrules, hlist⟩ := hsuits
  unfold Admits
  -- Each name is looked up in the table. The last case is that of the names that set nothing.
  split <;>
    simp [optionForms, or_and_right, exists_or, and_assoc, and_comm, holds_length_iff hj,
      holdsFields, *]
  grind

end Declaration

end TypedDocument
