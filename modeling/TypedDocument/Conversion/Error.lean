import TypedDocument.Calendar.Layout
import TypedDocument.Document.Json
import TypedDocument.Json.Pointer
import TypedDocument.Path.Access
import TypedDocument.Schema.Dict
import TypedDocument.Text.Quoted

/-!
# Errors of conversions and declarations

Converting a value may involve reading a field declaration, and reading a declaration involves converting its default,
so the two families of errors refer to each other.
-/

namespace TypedDocument

mutual

/-- Why a value cannot be converted. -/
inductive ConvertError where
  | unknownKey (e : UnknownKey)
  | path (e : PathError)
  /-- A text that the layout of its field cannot read. -/
  | badDateTime (value layout : String) (fault : LayoutFault)
  /-- An error inside the field at a path. -/
  | inField (field : String) (source : ConvertError)
  | wrongType (expected : String) (actual : ValueType)
  | json (fault : JsonFault)
  | declaration (e : DeclarationError)

/-- What is wrong with a declaration, and at which of its nodes. -/
inductive DeclarationError where
  | notAnObject (node : Pointer) (actual : String)
  | unknownType (node : Pointer) (name : String)
  | invalidOption (node : Pointer) (option message : String)
  | invalidPattern (node : Pointer) (tooLarge : Bool)
  | invalidDefault (node : Pointer) (source : ConvertError)

end

/-- The written form of a pointer in messages; a slash stands for the whole declaration. -/
def Pointer.shown (p : Pointer) : String := if p.isEmpty then "/" else p.text

mutual

def ConvertError.message : ConvertError → String
  | .unknownKey e => e.message
  | .path e => e.message
  | .badDateTime value layout fault =>
    "cannot parse " ++ Quoted.encode value ++ " with format " ++ layout ++ ": " ++ fault.message
  | .inField field source => "field " ++ field ++ ": " ++ source.message
  | .wrongType expected actual => "cannot convert value of type " ++ actual.name ++ ", expected " ++ expected
  | .json fault => fault.message
  | .declaration e => "invalid field declaration: " ++ e.message

def DeclarationError.message : DeclarationError → String
  | .notAnObject p actual => "declaration at " ++ p.shown ++ " must be an object, got " ++ actual
  | .unknownType p name => "unknown field type \"" ++ name ++ "\" at " ++ p.shown
  | .invalidOption p option message => "invalid option \"" ++ option ++ "\" at " ++ p.shown ++ ": " ++ message
  | .invalidPattern p tooLarge =>
    "invalid pattern at " ++ p.shown ++
      if tooLarge then ": Compiled regex exceeds size limit" else ": regex parse error"
  | .invalidDefault p source => "invalid default at " ++ p.shown ++ ": " ++ source.message

end

namespace ConvertError

/-- Qualifies an error with the key it occurred under; the path of an error that already has one grows at its
front. -/
def under (key : String) : ConvertError → ConvertError
  | inField field source => inField (Path.join key field) source
  | e => inField key e

/-- The path of the field the error occurred in, where it is known. -/
def field? : ConvertError → Option String
  | inField field _ => some field
  | _ => none

/-- The exit status of a command that fails with the error. Faulty declarations count as faulty input. -/
def exitCode : ConvertError → Nat
  | inField _ source => source.exitCode
  | declaration _ => 2
  | _ => 1

end ConvertError

namespace DeclarationError

def exitCode (_ : DeclarationError) : Nat := 2

/-- The node at fault. -/
def pointer : DeclarationError → Pointer
  | notAnObject p _ => p
  | unknownType p _ => p
  | invalidOption p _ _ => p
  | invalidPattern p _ => p
  | invalidDefault p _ => p

end DeclarationError

end TypedDocument
