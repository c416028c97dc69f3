import TypedDocument.Conversion.Encoding
import TypedDocument.Declaration.Reader
import TypedDocument.Validation.Basic

/-!
# Schemas

A schema is the dict that governs a whole document, with a title and a description of its own.
-/

namespace TypedDocument

namespace Dict

/-- The field governed by a sequence of keys through nested mappings. A field for any value covers everything below
it; indices of lists are not resolved. -/
def fieldAlong (d : Dict) : List String → Option Field
  | [] => none
  | key :: rest =>
    match d.field? key with
    | none => none
    | some f =>
      if rest.isEmpty then some f
      else
        match f.kind with
        | .dict nested => fieldAlong nested rest
        | .any => some f
        | _ => none

end Dict

/-- The description of documents. -/
structure Schema where
  root : Dict
  title : Option String := none
  description : Option String := none

namespace Schema

/-- The schema of the given fields. -/
def ofDict (root : Dict) : Schema := { root }

/-- A schema that any document meets. -/
def any : Schema :=
  let anything := Field.any.withNullable true |>.withOptional true
  ofDict [(.type .text, anything), (.type .integer, anything)]

instance : BEq Schema where
  beq a b := Dict.beq a.root b.root && a.title == b.title && a.description == b.description

/-- A schema with the fields of another laid over its own. The other's title and description count where it has
them. -/
def extend (base overlay : Schema) : Schema where
  root := Dict.merge base.root overlay.root
  title := overlay.title.or base.title
  description := overlay.description.or base.description

/-- The field that governs the value at a dotted path. -/
def fieldAt (s : Schema) (path : String) : Except UnknownKey Field :=
  match Dict.fieldAlong s.root ((Path.pieces path).map String.ofList) with
  | some f => .ok f
  | none => .error ⟨path⟩

/-- Checks a document. A document is a mapping. -/
def validate (s : Schema) (doc : Value) (partially : Bool) : Except ValidationError Unit :=
  match doc with
  | .null => .error ⟨"", .nullNotAllowed⟩
  | doc => doc.validate partially (Field.dict s.root) ""

def isValid (s : Schema) (doc : Value) : Bool := (s.validate doc false).toBool

def isPartiallyValid (s : Schema) (doc : Value) : Bool := (s.validate doc true).toBool

/-- Decodes a raw document. -/
def decode (s : Schema) (doc : Value) : Except ConvertError Value :=
  match doc with
  | .map es => (Value.decodeEntries Declaration.readField s.root es).map .map
  | v => .error (.wrongType "dict" v.type)

/-- Encodes a document. -/
def encode (s : Schema) (doc : Value) : Except ConvertError Value :=
  match doc with
  | .map es => (Value.encodeEntries es s.root).map .map
  | v => .error (.wrongType "dict" v.type)

end Schema

end TypedDocument
