import TypedDocument.Calendar.Time
import TypedDocument.Document.Key
import TypedDocument.Entries
import TypedDocument.Number.Basic
import TypedDocument.Pattern

/-!
# Documents and fields

A document is a tree of values: mappings with text keys, lists and scalars. Besides the JSON scalars it may hold days,
times and even fields. A field describes one value: what kind of value it is, which rules the value has to keep,
whether it may be missing or null, and what it is by default.
-/

namespace TypedDocument

/-- Inclusive bounds of numbers. -/
structure Bounds where
  min : Option Number := none
  max : Option Number := none
deriving BEq

/-- Rules for texts. An exact length makes the other two lengths irrelevant. -/
structure TextRules where
  length : Option Nat := none
  minLen : Option Nat := none
  maxLen : Option Nat := none
  pattern : Option Pattern := none
deriving DecidableEq

/-- What a field says about its value whatever its kind. -/
structure FieldOptions where
  optional : Bool := false
  nullable : Bool := false
  title : Option String := none
  description : Option String := none
deriving DecidableEq

/-- The identity of a counter. All copies of a field share the counter of their default. -/
abbrev CounterId := Nat

mutual

/-- A document, or a part of one. -/
inductive Value where
  | null
  | bool (b : Bool)
  | int (i : Int32)
  | long (i : Int64)
  | float (x : Float)
  | text (s : String)
  | dateTime (t : DateTime)
  | date (d : Date)
  | time (t : Time)
  | list (items : List Value)
  | map (entries : List (String × Value))
  | field (f : Field)

/-- The description of one value. -/
inductive Field where
  | mk (kind : FieldKind) (options : FieldOptions) (default : Default)

/-- The semantic type of a field. -/
inductive FieldKind where
  /-- Any value. -/
  | any
  /-- A field held as data. -/
  | field
  /-- Only null. -/
  | null
  | bool
  | int (bounds : Bounds)
  | long (bounds : Bounds)
  | float (bounds : Bounds)
  | text (rules : TextRules)
  | dateTime
  /-- A day; of a day with a time only the day counts. -/
  | date
  | time
  /-- A list whose elements each match one of the candidates; without candidates, any element will do. -/
  | list (candidates : List Field) (minLen : Nat) (maxLen : Option Nat)
  /-- A mapping whose entries are described one by one. -/
  | dict (fields : List (SchemaKey × Field))

/-- What a field is filled with when a document is created. -/
inductive Default where
  | unset
  | value (v : Value)
  /-- The next number of a counter, drawn anew for every created document. -/
  | counter (id : CounterId)

end

/-- The entries of a mapping. -/
abbrev Mapping := Entries String Value

/-- The fields of a schema or of a nested mapping. -/
abbrev Dict := Entries SchemaKey Field

instance : Inhabited Value := ⟨.null⟩

namespace Field

def kind : Field → FieldKind
  | mk kind _ _ => kind

def options : Field → FieldOptions
  | mk _ options _ => options

def default : Field → Default
  | mk _ _ default => default

def optional (f : Field) : Bool := f.options.optional

def nullable (f : Field) : Bool := f.options.nullable

def title (f : Field) : Option String := f.options.title

def description (f : Field) : Option String := f.options.description

/-- A required field that must not be null and has no default. -/
def ofKind (kind : FieldKind) : Field := mk kind {} .unset

end Field

instance : Inhabited Field := ⟨.ofKind .any⟩

/-- The runtime type of a value. -/
inductive ValueType where
  | null
  | bool
  | int
  | long
  | float
  | text
  | dateTime
  | date
  | time
  | list
  | map
  | field
deriving DecidableEq, Repr

namespace ValueType

def name : ValueType → String
  | null => "null"
  | bool => "bool"
  | int => "int"
  | long => "long"
  | float => "float"
  | text => "text"
  | dateTime => "datetime"
  | date => "date"
  | time => "time"
  | list => "list"
  | map => "dict"
  | field => "field"

end ValueType

namespace Value

def type : Value → ValueType
  | null => .null
  | bool _ => .bool
  | int _ => .int
  | long _ => .long
  | float _ => .float
  | text _ => .text
  | dateTime _ => .dateTime
  | date _ => .date
  | time _ => .time
  | list _ => .list
  | map _ => .map
  | field _ => .field

def isNull : Value → Bool
  | null => true
  | _ => false

/-- The entries of a mapping. -/
def map? : Value → Option Mapping
  | map es => some es
  | _ => none

/-- The elements of a list. -/
def list? : Value → Option (List Value)
  | list items => some items
  | _ => none

def text? : Value → Option String
  | text s => some s
  | _ => none

end Value

namespace FieldKind

/-- The name of a kind in declarations and messages. -/
def name : FieldKind → String
  | any => "any"
  | field => "field"
  | null => "none"
  | bool => "bool"
  | int _ => "int"
  | long _ => "long"
  | float _ => "float"
  | text _ => "text"
  | dateTime => "datetime"
  | date => "date"
  | time => "time"
  | list .. => "list"
  | dict _ => "dict"

/-- Whether a value has the runtime type of a kind. -/
def accepts : FieldKind → Value → Bool
  | any, _ => true
  | field, .field _ => true
  | null, .null => true
  | bool, .bool _ => true
  | int _, .int _ => true
  | long _, .long _ => true
  | float _, .float _ => true
  | text _, .text _ => true
  | dateTime, .dateTime _ => true
  | date, .date _ => true
  | date, .dateTime _ => true
  | time, .time _ => true
  | list .., .list _ => true
  | dict _, .map _ => true
  | _, _ => false

end FieldKind

end TypedDocument
