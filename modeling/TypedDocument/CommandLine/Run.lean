import TypedDocument.CommandLine.Arguments
import TypedDocument.Converter.Basic
import TypedDocument.JsonSchema.Check
import TypedDocument.Loading
import TypedDocument.Schema.Creation

/-!
# Running commands

Commands read files, write at most one, and end with texts for the two output streams and an exit status. They are
written over any kind of file access, so that the same commands run on a disk and on a table of files in memory.
-/

namespace TypedDocument.CommandLine

/-- Access to files. Reading gives the content or the reason why there is none, writing the reason why it failed. -/
structure FileAccess (m : Type → Type) where
  read : (path : String) → m (Except LoadError String)
  write : (path content : String) → m (Except String Unit)

/-- What a command leaves behind. -/
structure Outcome where
  exitCode : Nat
  stdout : String := ""
  stderr : String := ""
deriving DecidableEq, Repr

namespace Outcome

/-- A line on the standard output. -/
def line (text : String) (exitCode : Nat) : Outcome := { exitCode, stdout := text ++ "\n" }

/-- An error message, as an object on the standard output or as a line on the error stream. -/
def error (json : Bool) (message : String) (exitCode : Nat) : Outcome :=
  if json then line (Json.object [("valid", .bool false), ("error", .string message)]).compact exitCode
  else { exitCode, stderr := "Error: " ++ message ++ "\n" }

/-- A report on a document as an object: the offending fields, each with its message. -/
def report (errors : List (String × String)) : Outcome :=
  let entries := errors.map fun (field, message) =>
    Json.object [("field", .string field), ("message", .string message)]
  line (Json.object (("valid", .bool errors.isEmpty) ::
    if errors.isEmpty then [] else [("errors", .array entries)])).compact (if errors.isEmpty then 0 else 1)

/-- A report on a document in words. -/
def failed (lines : List String) : Outcome :=
  { exitCode := 1, stderr := "Validation failed:\n" ++ String.join (lines.map fun l => "  " ++ l ++ "\n") }

def withExitCode (exitCode : Nat) (o : Outcome) : Outcome := { o with exitCode }

end Outcome

/-- A step of a command: it goes on with a result or ends the command. -/
abbrev Step (m : Type → Type) (α : Type) := ExceptT Outcome m α

section

variable {m : Type → Type} [Monad m]

/-- A step that ends the command if it fails. -/
def orEnd {ε α : Type} (stop : ε → Outcome) : Except ε α → Step m α
  | .ok a => pure a
  | .error e => throw (stop e)

/-- Reads a file and makes something of its content. -/
def loadFile {α : Type} (files : FileAccess m) (json : Bool) (what path : String)
    (load : String → Except LoadError α) : Step m α := do
  let content ← files.read path
  orEnd (fun e => .error json ("loading " ++ what ++ ": " ++ e.message) e.exitCode) (content.bind load)

/-- Writes a value as JSON text to a file, or to the standard output with a line break behind it. -/
def writeValue (files : FileAccess m) (v : Value) (output : Option String) (pretty : Bool) : Step m Outcome := do
  let j ← orEnd (fun e : JsonFault => .error false e.message 1) v.toJson
  let text := if pretty then j.pretty else j.compact
  match output with
  | none => return .line text 0
  | some path =>
    match ← files.write path text with
    | .ok () => return { exitCode := 0 }
    | .error reason =>
      return { exitCode := 3, stderr := "Error writing to " ++ path ++ ": " ++ reason ++ "\n" }

/-- The end of a command whose conversion failed. -/
def conversionFailed (e : ConvertError) : Outcome := .error false e.message e.exitCode

/-- The end of a validation whose document could not be decoded. -/
def decodingFailed (json : Bool) (e : ConvertError) : Outcome :=
  match json, e.field? with
  | true, some field => (Outcome.report [(field, e.message)]).withExitCode e.exitCode
  | _, _ => .error json e.message e.exitCode

def runValidate (files : FileAccess m) (document schema : String) (partially json : Bool) : Step m Outcome := do
  let s ← loadFile files json "schema" schema loadSchema
  let raw ← loadFile files json "document" document loadDocument
  let doc ← orEnd (decodingFailed json) (s.decode raw)
  match s.validate doc partially with
  | .ok () => return if json then .report [] else .line "Valid" 0
  | .error e => return if json then .report [(e.field, e.message)] else .failed [e.message]

def runCreate (files : FileAccess m) (schema : String) (initial output : Option String) (pretty : Bool) :
    Step m Outcome := do
  let s ← loadFile files false "schema" schema loadSchema
  let doc ← match initial with
    | none => pure (s.create .fresh).1
    | some path => do
      let raw ← loadFile files false "document" path loadDocument
      let initial ← orEnd
        (fun e : ConvertError => .error false ("initial document: " ++ e.message) e.exitCode) (s.decode raw)
      pure (s.createFrom (initial.map?.getD []) .fresh).1
  let wire ← orEnd conversionFailed (s.encode doc)
  writeValue files wire output pretty

/-- Files hold JSON on both sides, so documents of the schema's side are decoded before they go out and encoded after
they have come in. -/
def runConvert (files : FileAccess m) (document schema : String) (direction : Direction)
    (excluded excludedInbound : List String) (renames : List (String × String)) (output : Option String)
    (pretty : Bool) : Step m Outcome := do
  let s ← loadFile files false "schema" schema loadSchema
  let raw ← loadFile files false "document" document loadDocument
  let converter : Converter := { rule := .ofSchema s, excluded, excludedInbound, renames }
  let converted ← orEnd conversionFailed <|
    match direction with
    | .outbound => (s.decode raw).bind converter.toWire
    | .inbound => (converter.fromWire raw).bind s.encode
  writeValue files converted output pretty

def runJsonSchema (files : FileAccess m) (schema : String) (output : Option String) (pretty : Bool) :
    Step m Outcome := do
  let s ← loadFile files false "schema" schema loadSchema
  writeValue files (Value.ofJson s.jsonSchema.toJson) output pretty

def runCheck (files : FileAccess m) (document schema : String) (json : Bool) : Step m Outcome := do
  let s ← loadFile files json "schema" schema loadSchema
  let doc ← loadFile files json "document" document loadJson
  match s.check doc with
  | .ok () => return if json then .report [] else .line "Valid" 0
  | .error (.invalid violations) =>
    return if json then .report (violations.map fun v => (v.path, v.message))
      else .failed (violations.map Violation.text)
  | .error e => return .error json e.message e.exitCode

/-- Runs a command to its end. -/
def Command.run (files : FileAccess m) (c : Command) : m Outcome := do
  let result ← ExceptT.run <|
    match c with
    | .validate document schema partially json => runValidate files document schema partially json
    | .create schema initial output pretty => runCreate files schema initial output pretty
    | .convert document schema direction excluded excludedInbound renames output pretty =>
      runConvert files document schema direction excluded excludedInbound renames output pretty
    | .jsonSchema schema output pretty => runJsonSchema files schema output pretty
    | .check document schema json => runCheck files document schema json
  match result with
  | .ok o => return o
  | .error o => return o

end

end TypedDocument.CommandLine
