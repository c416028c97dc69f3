import TypedDocument.Conversion.Error
import TypedDocument.Field.Builder
import TypedDocument.Json.Writer
import TypedDocument.Number.Width

/-!
# Options of field declarations

Every member of a field declaration but the ones that hold further declarations sets one option. An option has to
suit the type of the field and to have the right form.
-/

namespace TypedDocument.Declaration

/-- An error about an option of the declaration at a node. -/
def invalid {α : Type} (node : Pointer) (option message : String) : Except DeclarationError α :=
  .error (.invalidOption node option message)

/-- The complaint about a value of the wrong JSON type. -/
def expected {α : Type} (node : Pointer) (option what : String) (actual : Json) : Except DeclarationError α :=
  invalid node option ("expected " ++ what ++ ", got " ++ actual.typeName)

def readFlag (node : Pointer) (option : String) : Json → Except DeclarationError Bool
  | .bool b => .ok b
  | j => expected node option "a boolean" j

def readText (node : Pointer) (option : String) : Json → Except DeclarationError String
  | .string s => .ok s
  | j => expected node option "a string" j

/-- A length: an integer from zero on. The complaint shows the offending value itself. -/
def readLength (node : Pointer) (option : String) : Json → Except DeclarationError Nat
  | .integer (.ofNat n) => .ok n
  | j => invalid node option ("expected a non-negative integer, got " ++ j.compact)

/-- A bound: any number. Integers beyond 64 signed bits become floats. -/
def readBound (node : Pointer) (option : String) : Json → Except DeclarationError Number
  | .integer i => .ok (if fitsInt64 i then .int (Int64.ofInt i) else .float (Float.ofInt i))
  | .float x => .ok (.float x)
  | j => expected node option "a number" j

/-- A pattern, which has to be well-formed. -/
def readPattern (node : Pointer) (option : String) (j : Json) : Except DeclarationError Pattern := do
  let source ← readText node option j
  match Pattern.compile? source with
  | some p => return p
  | none =>
    throw (.invalidPattern (node.child option) (Regex.parse? .full source.toList).isSome)

/-- Whether fields of a kind have bounds. -/
def hasBounds : FieldKind → Bool
  | .int _ => true
  | .long _ => true
  | .float _ => true
  | _ => false

def hasRules : FieldKind → Bool
  | .text _ => true
  | _ => false

def isList : FieldKind → Bool
  | .list .. => true
  | _ => false

/-- The member with the candidates of a list or the entries of a nested mapping, which is read before the options. -/
def holdsFields (typeName option : String) : Bool :=
  (option == "fields" && typeName == "list") || (option == "schema" && typeName == "dict")

/-- Sets one option of a field. -/
def setOption (node : Pointer) (typeName option : String) (j : Json) (f : Field) :
    Except DeclarationError Field :=
  if option = "type" || option = "default" || holdsFields typeName option then .ok f
  else
    match option with
    | "optional" => return f.withOptional (← readFlag node option j)
    | "can_be_none" => return f.withNullable (← readFlag node option j)
    | "title" => return f.withTitle (← readText node option j)
    | "description" => return f.withDescription (← readText node option j)
    | "min" => if hasBounds f.kind then return f.withMin (← readBound node option j) else unsupported
    | "max" => if hasBounds f.kind then return f.withMax (← readBound node option j) else unsupported
    | "length" => if hasRules f.kind then return f.withLength (← readLength node option j) else unsupported
    | "match" => if hasRules f.kind then return f.withPattern (← readPattern node option j) else unsupported
    | "min_len" =>
      if hasRules f.kind || isList f.kind then return f.withMinLen (← readLength node option j) else unsupported
    | "max_len" =>
      if hasRules f.kind || isList f.kind then return f.withMaxLen (← readLength node option j) else unsupported
    | _ => unsupported
where
  /-- Some options make no sense for some types. -/
  unsupported : Except DeclarationError Field := invalid node option ("not supported for type " ++ typeName)

/-- Sets the options of a declaration in the order they stand in. -/
def setOptions (node : Pointer) (typeName : String) : List (String × Json) → Field → Except DeclarationError Field
  | [], f => .ok f
  | (option, j) :: rest, f => do
    let g ← setOption node typeName option j f
    setOptions node typeName rest g

/-- The fields of the types that hold no further fields. -/
def plainField? : String → Option Field
  | "any" => some .any
  | "field" => some .field
  | "none" => some .null
  | "bool" => some .bool
  | "int" => some .int
  | "long" => some .long
  | "float" => some .float
  | "text" => some .text
  | "uuid" => some .uuid
  | "email" => some .email
  | "datetime" => some .dateTime
  | "date" => some .date
  | "time" => some .time
  | _ => none

/-- The type a declaration names. -/
def readType (node : Pointer) (members : List (String × Json)) : Except DeclarationError String :=
  match Entries.get? "type" members with
  | some (.string name) => .ok name
  | some j => expected node "type" "a string" j
  | none => invalid node "type" "missing field type"

end TypedDocument.Declaration
