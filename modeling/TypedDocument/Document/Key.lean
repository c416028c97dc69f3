import TypedDocument.Number.Reading
import TypedDocument.Number.Width

/-!
# Keys of schemas

A schema declares its entries under literal names and under key types. A key type stands for all document keys of
that type and makes a schema open-ended.
-/

namespace TypedDocument

/-- The two types of document keys. -/
inductive KeyType where
  | text
  | integer
deriving DecidableEq, Repr

namespace KeyType

def name : KeyType → String
  | text => "text"
  | integer => "integer"

/-- A key is an integer key if it is a decimal integer of 64 bits, with or without a sign, and a text key
otherwise. -/
def ofKey (key : String) : KeyType :=
  match readInteger? key.toList with
  | some i => if fitsInt64 i then integer else text
  | none => text

end KeyType

/-- What an entry of a schema is declared under. -/
inductive SchemaKey where
  | name (name : String)
  | type (type : KeyType)
deriving DecidableEq, Repr

namespace SchemaKey

def isType : SchemaKey → Bool
  | name _ => false
  | type _ => true

/-- Key types are shown between angle brackets. -/
def text : SchemaKey → String
  | name n => n
  | type t => "<" ++ t.name ++ ">"

/-- The key that is shown as the given text: the two key types by their bracketed names, and otherwise a literal
name. -/
def ofText (s : String) : SchemaKey :=
  if s = text (type .text) then type .text
  else if s = text (type .integer) then type .integer
  else name s

end SchemaKey

end TypedDocument
