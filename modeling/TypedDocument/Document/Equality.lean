import TypedDocument.Document.Basic

/-!
# Equality of documents and fields

Two mappings are equal if they hold equal values under the same keys, in whatever order. Floats are compared as
numbers, so NaN differs from itself and the two zeros are equal. Numbers of different types differ.
-/

namespace TypedDocument

mutual

def Value.beq : Value → Value → Bool
  | .null, .null => true
  | .bool a, .bool b => a == b
  | .int a, .int b => a == b
  | .long a, .long b => a == b
  | .float a, .float b => a == b
  | .text a, .text b => a == b
  | .dateTime a, .dateTime b => a == b
  | .date a, .date b => a == b
  | .time a, .time b => a == b
  | .list a, .list b => Value.beqItems a b
  | .map a, .map b => a.length == b.length && Value.beqEntries a b
  | .field a, .field b => Field.beq a b
  | _, _ => false
termination_by structural v => v

def Value.beqItems : List Value → List Value → Bool
  | [], [] => true
  | a :: as, b :: bs => Value.beq a b && Value.beqItems as bs
  | _, _ => false
termination_by structural items => items

/-- Whether every entry has an equal one among the others. -/
def Value.beqEntries : List (String × Value) → List (String × Value) → Bool
  | [], _ => true
  | (k, v) :: rest, others =>
    (match Entries.get? k others with
      | some w => Value.beq v w
      | none => false) && Value.beqEntries rest others
termination_by structural entries => entries

def Field.beq : Field → Field → Bool
  | .mk k o d, .mk k' o' d' => FieldKind.beq k k' && o == o' && Default.beq d d'
termination_by structural f => f

def FieldKind.beq : FieldKind → FieldKind → Bool
  | .any, .any => true
  | .field, .field => true
  | .null, .null => true
  | .bool, .bool => true
  | .int a, .int b => a == b
  | .long a, .long b => a == b
  | .float a, .float b => a == b
  | .text a, .text b => a == b
  | .dateTime, .dateTime => true
  | .date, .date => true
  | .time, .time => true
  | .list cs least most, .list cs' least' most' => Field.beqList cs cs' && least == least' && most == most'
  | .dict fs, .dict fs' => fs.length == fs'.length && Field.beqEntries fs fs'
  | _, _ => false
termination_by structural k => k

def Field.beqList : List Field → List Field → Bool
  | [], [] => true
  | a :: as, b :: bs => Field.beq a b && Field.beqList as bs
  | _, _ => false
termination_by structural fields => fields

def Field.beqEntries : List (SchemaKey × Field) → List (SchemaKey × Field) → Bool
  | [], _ => true
  | (k, f) :: rest, others =>
    (match Entries.get? k others with
      | some g => Field.beq f g
      | none => false) && Field.beqEntries rest others
termination_by structural entries => entries

def Default.beq : Default → Default → Bool
  | .unset, .unset => true
  | .value a, .value b => Value.beq a b
  | .counter a, .counter b => a == b
  | _, _ => false
termination_by structural d => d

end

instance : BEq Value := ⟨Value.beq⟩

instance : BEq Field := ⟨Field.beq⟩

instance : BEq Default := ⟨Default.beq⟩

namespace Dict

/-- Equality of dicts, whatever the order of their fields. -/
def beq (a b : Dict) : Bool := a.length == b.length && Field.beqEntries a b

end Dict

end TypedDocument
