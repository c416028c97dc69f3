import TypedDocument.Declaration.Schema
import TypedDocument.Json.Reader

/-!
# Loading documents and schemas

Documents and schemas are loaded from JSON texts.
-/

namespace TypedDocument

/-- Why a document or a schema cannot be loaded. -/
inductive LoadError where
  | fileNotFound (path : String)
  | unreadable (path reason : String)
  | invalidJson
  | declaration (e : DeclarationError)

namespace LoadError

def message : LoadError → String
  | fileNotFound path => "file not found: " ++ path
  | unreadable path reason => "cannot read " ++ path ++ ": " ++ reason
  | invalidJson => "invalid JSON: the text is not a JSON text"
  | declaration e => e.message

/-- The exit status of a command that fails with the error. -/
def exitCode : LoadError → Nat
  | fileNotFound _ => 3
  | unreadable .. => 3
  | invalidJson => 2
  | declaration _ => 2

end LoadError

/-- The JSON value of a text. -/
def loadJson (text : String) : Except LoadError Json :=
  match Json.parse? text with
  | some j => .ok j
  | none => .error .invalidJson

/-- The raw document of a text. -/
def loadDocument (text : String) : Except LoadError Value := (loadJson text).map Value.ofJson

/-- The field declared by a text. -/
def loadField (text : String) : Except LoadError Field := do
  match Declaration.readField (← loadJson text) with
  | .ok f => return f
  | .error e => throw (.declaration e)

/-- The schema declared by a text. -/
def loadSchema (text : String) : Except LoadError Schema := do
  match Schema.ofDeclaration (← loadJson text) with
  | .ok s => return s
  | .error e => throw (.declaration e)

end TypedDocument
