import TypedDocument.Document.Basic

/-!
# Building fields

Constructors for the kinds of fields and the steps that set one option each. A step that does not apply to the kind
of a field leaves the field as it is.
-/

namespace TypedDocument

namespace Pattern

/-- Thirty-two lower-case hexadecimal digits. -/
def uuid : Pattern where
  source := "[0-9a-f]\x7b32\x7d"
  regex := .repeated (.chars (.union (.union .empty (.interval '0' '9')) (.interval 'a' 'f'))) 32 (some 32)
  parsed := by decide +kernel
  fits := by decide +kernel

/-- Some characters, an at sign, and some more characters, all on one line. -/
def email : Pattern where
  source := ".+@.+"
  regex := .seq (.seq (.repeated (.chars (.allBut '\n')) 1 none) (.chars (.single '@')))
    (.repeated (.chars (.allBut '\n')) 1 none)
  parsed := by decide +kernel
  fits := by decide +kernel

end Pattern

namespace Field

def any : Field := ofKind .any

/-- A field whose values are fields themselves. -/
def field : Field := ofKind .field

/-- A field that can only be null, and therefore may be. -/
def null : Field := mk .null { nullable := true } .unset

def bool : Field := ofKind .bool

def int : Field := ofKind (.int {})

def long : Field := ofKind (.long {})

def float : Field := ofKind (.float {})

def text : Field := ofKind (.text {})

/-- Text of exactly 32 lower-case hexadecimal digits. -/
def uuid : Field := ofKind (.text { length := some 32, pattern := some .uuid })

def email : Field := ofKind (.text { pattern := some .email })

def dateTime : Field := ofKind .dateTime

def date : Field := ofKind .date

def time : Field := ofKind .time

/-- A list of elements that match any of the candidates, empty by default. -/
def list (candidates : List Field) : Field := mk (.list candidates 0 none) {} (.value (.list []))

/-- A nested mapping. -/
def dict (fields : Dict) : Field := ofKind (.dict fields)

def withKind (kind : FieldKind) (f : Field) : Field := mk kind f.options f.default

def withOptional (optional : Bool) (f : Field) : Field := mk f.kind { f.options with optional } f.default

def withNullable (nullable : Bool) (f : Field) : Field := mk f.kind { f.options with nullable } f.default

def withTitle (title : String) (f : Field) : Field := mk f.kind { f.options with title := some title } f.default

def withDescription (description : String) (f : Field) : Field :=
  mk f.kind { f.options with description := some description } f.default

/-- The value is taken as it is, whatever the kind of the field. -/
def withDefault (v : Value) (f : Field) : Field := mk f.kind f.options (.value v)

/-- Lets a counter give the default. -/
def withCounter (id : CounterId) (f : Field) : Field := mk f.kind f.options (.counter id)

/-- Changes the bounds of a numeric field. -/
def mapBounds (change : Bounds → Bounds) (f : Field) : Field :=
  match f.kind with
  | .int b => f.withKind (.int (change b))
  | .long b => f.withKind (.long (change b))
  | .float b => f.withKind (.float (change b))
  | _ => f

/-- Changes the rules of a text field. -/
def mapRules (change : TextRules → TextRules) (f : Field) : Field :=
  match f.kind with
  | .text r => f.withKind (.text (change r))
  | _ => f

def withMin (n : Number) (f : Field) : Field := f.mapBounds ({ · with min := some n })

def withMax (n : Number) (f : Field) : Field := f.mapBounds ({ · with max := some n })

def withLength (n : Nat) (f : Field) : Field := f.mapRules ({ · with length := some n })

def withPattern (p : Pattern) (f : Field) : Field := f.mapRules ({ · with pattern := some p })

/-- The least length of a text or a list. -/
def withMinLen (n : Nat) (f : Field) : Field :=
  match f.kind with
  | .list candidates _ most => f.withKind (.list candidates n most)
  | _ => f.mapRules ({ · with minLen := some n })

/-- The greatest length of a text or a list. -/
def withMaxLen (n : Nat) (f : Field) : Field :=
  match f.kind with
  | .list candidates least _ => f.withKind (.list candidates least (some n))
  | _ => f.mapRules ({ · with maxLen := some n })

end Field

end TypedDocument
