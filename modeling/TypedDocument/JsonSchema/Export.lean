import TypedDocument.JsonSchema.Basic
import TypedDocument.Schema.Basic

/-!
# Exporting schemas

The export of a schema describes the encoded form of its documents: days and times are strings in their layouts, and
fields held as data are declaration objects. That a key of some type is required cannot be expressed, so key types are
exported as optional. Literal names that look like integers are checked against their own entry only, so the pattern
for integer keys leaves them out.
-/

namespace TypedDocument

namespace JsonSchema

/-- The dialect of exported schemas. -/
def dialect : String := "https://json-schema.org/draft/2020-12/schema"

def dateTimePattern : String :=
  "^[0-9]\x7b4\x7d-[0-9]\x7b2\x7d-[0-9]\x7b2\x7dT[0-9]\x7b2\x7d:[0-9]\x7b2\x7d:[0-9]\x7b2\x7dZ$"

def datePattern : String := "^[0-9]\x7b4\x7d-[0-9]\x7b2\x7d-[0-9]\x7b2\x7d$"

def timePattern : String := "^[0-9]\x7b2\x7d:[0-9]\x7b2\x7d:[0-9]\x7b2\x7d$"

/-- The type of a value, or null where the field is nullable. -/
def typed (nullable : Bool) (name : String) : Keyword := .type (if nullable then [name, "null"] else [name])

/-- A keyword that is written only if a limit is set. -/
def limit {α : Type} (make : α → Keyword) (a : Option α) : List Keyword := (a.map make).toList

def boundKeywords (b : Bounds) : List Keyword := limit .minimum b.min ++ limit .maximum b.max

/-- The rules of a text. An exact length is both the least and the greatest one, and patterns match at the start. -/
def ruleKeywords (r : TextRules) : List Keyword :=
  (match r.length with
    | some n => [.minLength n, .maxLength n]
    | none => limit .minLength r.minLen ++ limit .maxLength r.maxLen) ++
  limit (fun p : Pattern => .pattern ("^(?:" ++ p.source ++ ")")) r.pattern

/-- What the elements of a list have to meet. -/
def candidateKeywords : List JsonSchema → List Keyword
  | [] => []
  | [s] => [.items s]
  | ss => [.items (.all [.anyOf ss])]

/-- The members of an object from the exported entries of a dict. Where text keys are allowed and integer keys are
not, a pattern keeps integer keys from passing as text keys. -/
def memberKeyword (d : Dict) (exported : Entries SchemaKey JsonSchema) : Keyword :=
  let properties := exported.filterMap fun (key, s) =>
    match key with
    | .name n => some (n, s)
    | .type _ => none
  let required := d.filterMap fun (key, f) =>
    match key with
    | .name n => if f.optional then none else some n
    | .type _ => none
  let integers := (properties.map (·.1)).filter fun n => KeyType.ofKey n == .integer
  let textKeys := Entries.get? (.type .text) exported
  let integerKeys := Entries.get? (.type .integer) exported
  let patterns := match integerKeys, textKeys with
    | some s, _ => [(KeyPattern.integersExcept integers, s)]
    | none, some _ => [(KeyPattern.integersExcept integers, never)]
    | none, none => []
  .members properties required patterns (textKeys.getD never)

/-- The title, the description and the default of a field. A default without JSON form is left out. -/
def notes (f : Field) : List Keyword :=
  limit .title f.title ++ limit .description f.description ++
    match f.default with
    | .value v => limit .default ((f.encode v).toOption.bind fun w => w.toJson.toOption)
    | _ => []

end JsonSchema

open JsonSchema in
mutual

/-- The JSON Schema of the values of a field. -/
def Field.jsonSchema : Field → JsonSchema
  | .mk kind options default =>
    .all (FieldKind.exportKeywords options.nullable kind ++ notes (.mk kind options default))
termination_by structural f => f

def FieldKind.exportKeywords (nullable : Bool) : FieldKind → List Keyword
  | .any => []
  | .field => [typed nullable "object", .required ["type"]]
  | .null => [.type ["null"]]
  | .bool => [typed nullable "boolean"]
  | .int b => typed nullable "integer" :: boundKeywords b
  | .long b => typed nullable "integer" :: boundKeywords b
  | .float b => typed nullable "number" :: boundKeywords b
  | .text r => typed nullable "string" :: ruleKeywords r
  | .dateTime => [typed nullable "string", .pattern dateTimePattern]
  | .date => [typed nullable "string", .pattern datePattern]
  | .time => [typed nullable "string", .pattern timePattern]
  | .list candidates least most =>
    typed nullable "array" :: (if 0 < least then [.minItems least] else []) ++ limit .maxItems most ++
      candidateKeywords (Field.exportAll candidates)
  | .dict fields => [typed nullable "object", memberKeyword fields (Dict.exportEntries fields)]
termination_by structural k => k

def Field.exportAll : List Field → List JsonSchema
  | [] => []
  | f :: rest => Field.jsonSchema f :: Field.exportAll rest
termination_by structural fs => fs

def Dict.exportEntries : List (SchemaKey × Field) → List (SchemaKey × JsonSchema)
  | [] => []
  | (key, f) :: rest => (key, Field.jsonSchema f) :: Dict.exportEntries rest
termination_by structural es => es

end

namespace Schema

open JsonSchema in
/-- The JSON Schema of the documents of a schema. -/
def jsonSchema (s : Schema) : JsonSchema :=
  .all (.dialect dialect :: limit .title s.title ++ limit .description s.description ++
    [typed false "object", memberKeyword s.root (Dict.exportEntries s.root)])

end Schema

end TypedDocument
