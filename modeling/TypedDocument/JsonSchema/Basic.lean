import TypedDocument.Document.Key
import TypedDocument.Json.Basic
import TypedDocument.Number.Basic
import TypedDocument.Regex.Parser

/-!
# JSON Schemas

The part of the JSON Schema vocabulary (draft 2020-12) that describes documents. A schema is a list of keywords whose
order is that of the members it is written with, or the schema that nothing meets.
-/

namespace TypedDocument

/-- A pattern for the keys of an object, as an expression and as the text it is written as. -/
structure KeyPattern where
  text : String
  regex : Regex

namespace KeyPattern

/-- An integer with an optional sign. -/
def signedDigits : Regex :=
  .seq (.repeated (.chars (.union (.single '+') (.single '-'))) 0 (some 1)) (.repeated (.chars .asciiDigits) 1 none)

/-- The keys that look like integers, apart from the given ones. The exceptions are ruled out by looking ahead. -/
def integersExcept (exceptions : List String) : KeyPattern :=
  let exclusion :=
    if exceptions.isEmpty then ""
    else "(?!(?:" ++ "|".intercalate (exceptions.map Regex.escape) ++ ")$)"
  let ahead : Regex := .seq (Regex.choice (exceptions.map fun s => Regex.literal s.toList)) (.look .textEnd)
  let lookAhead : Regex := if exceptions.isEmpty then .empty else .notAhead ahead
  { text := "^" ++ exclusion ++ "[+-]?[0-9]+$"
    regex := .seq (.look .textStart) (.seq lookAhead (.seq signedDigits (.look .textEnd))) }

/-- Whether a key matches. -/
def matchesKey (p : KeyPattern) (key : String) : Bool := p.regex.matchesWithin key

end KeyPattern

mutual

/-- A JSON Schema. -/
inductive JsonSchema where
  /-- The schema `false`. -/
  | never
  | all (keywords : List Keyword)

/-- A constraint or a note. -/
inductive Keyword where
  | dialect (url : String)
  | title (s : String)
  | description (s : String)
  | default (j : Json)
  /-- The value has one of the types. -/
  | type (names : List String)
  | minimum (n : Number)
  | maximum (n : Number)
  | minLength (n : Nat)
  | maxLength (n : Nat)
  /-- The text contains a match. -/
  | pattern (source : String)
  | minItems (n : Nat)
  | maxItems (n : Nat)
  /-- Every element meets the schema. -/
  | items (s : JsonSchema)
  /-- The value meets one of the schemas. -/
  | anyOf (ss : List JsonSchema)
  /-- The object has all the members. -/
  | required (names : List String)
  /-- The members of an object: those that have a schema of their own, those it must have, those whose keys match a
  pattern, and all others. -/
  | members (properties : List (String × JsonSchema)) (required : List String)
      (patterns : List (KeyPattern × JsonSchema)) (additional : JsonSchema)

end

namespace JsonSchema

/-- A bound as it is written. A bound that is no number is written as null, which no checker takes. -/
def writeBound : Number → Json
  | .int i => .integer i.toInt
  | .float x => .ofFloat x

/-- A member that is left out when it would be empty. -/
def memberUnless (empty : Bool) (key : String) (j : Json) : List (String × Json) := if empty then [] else [(key, j)]

mutual

/-- The JSON form of a schema. -/
def toJson : JsonSchema → Json
  | never => .bool false
  | all keywords => .object (keywordsToJson keywords)

def keywordsToJson : List Keyword → List (String × Json)
  | [] => []
  | k :: rest => keywordToJson k ++ keywordsToJson rest

/-- The members that write a keyword. -/
def keywordToJson : Keyword → List (String × Json)
  | .dialect url => [("$schema", .string url)]
  | .title s => [("title", .string s)]
  | .description s => [("description", .string s)]
  | .default j => [("default", j)]
  | .type [name] => [("type", .string name)]
  | .type names => [("type", .array (names.map .string))]
  | .minimum n => [("minimum", writeBound n)]
  | .maximum n => [("maximum", writeBound n)]
  | .minLength n => [("minLength", .ofNat n)]
  | .maxLength n => [("maxLength", .ofNat n)]
  | .pattern source => [("pattern", .string source)]
  | .minItems n => [("minItems", .ofNat n)]
  | .maxItems n => [("maxItems", .ofNat n)]
  | .items s => [("items", toJson s)]
  | .anyOf ss => [("anyOf", .array (schemasToJson ss))]
  | .required names => [("required", .array (names.map .string))]
  | .members properties required patterns additional =>
    memberUnless properties.isEmpty "properties" (.object (propertiesToJson properties)) ++
      memberUnless required.isEmpty "required" (.array (required.map .string)) ++
      memberUnless patterns.isEmpty "patternProperties" (.object (patternsToJson patterns)) ++
      [("additionalProperties", toJson additional)]

def schemasToJson : List JsonSchema → List Json
  | [] => []
  | s :: rest => toJson s :: schemasToJson rest

def propertiesToJson : List (String × JsonSchema) → List (String × Json)
  | [] => []
  | (name, s) :: rest => (name, toJson s) :: propertiesToJson rest

def patternsToJson : List (KeyPattern × JsonSchema) → List (String × Json)
  | [] => []
  | (p, s) :: rest => (p.text, toJson s) :: patternsToJson rest

end

end JsonSchema

end TypedDocument
