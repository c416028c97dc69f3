import TypedDocument.Json.Pointer
import TypedDocument.Json.Writer
import TypedDocument.JsonSchema.Export
import TypedDocument.Number.Exact
import TypedDocument.Regex.Size

/-!
# Checking JSON values against JSON Schemas

Checking a value collects all violations, keyword by keyword in the order of the schema. The members of an object are
visited in the order of the object. A schema with a bound that is no number or with a malformed pattern is refused as
a whole.
-/

namespace TypedDocument

/-- A departure from a schema: where, and in which way. -/
structure Violation where
  path : String
  message : String
deriving DecidableEq, Repr

namespace Violation

def text (v : Violation) : String := v.path ++ ": " ++ v.message

end Violation

/-- Why a document does not pass a check. -/
inductive JsonSchemaError where
  /-- The schema itself cannot be used. -/
  | badSchema
  | invalid (violations : List Violation)

namespace JsonSchemaError

def message : JsonSchemaError → String
  | badSchema => "exported JSON Schema was rejected: a bound or a pattern is malformed"
  | invalid violations => "document violates JSON Schema with " ++ toString violations.length ++ " error(s)"

/-- The exit status of a command that fails with the error. -/
def exitCode : JsonSchemaError → Nat
  | badSchema => 2
  | invalid _ => 1

end JsonSchemaError

namespace JsonSchema

/-- The expression of a pattern in the dialect of JSON Schema, whose letter classes are basic. -/
def patternRegex? (source : String) : Option Regex :=
  (Regex.parse? .basic source.toList).filter fun r => r.size ≤ Regex.sizeLimit

def isUsableBound : Number → Bool
  | .int _ => true
  | .float x => x.isFinite

mutual

/-- Whether all bounds and patterns of a schema are well-formed. -/
def isUsable : JsonSchema → Bool
  | never => true
  | all keywords => areUsable keywords

def areUsable : List Keyword → Bool
  | [] => true
  | k :: rest => isUsableKeyword k && areUsable rest

def isUsableKeyword : Keyword → Bool
  | .minimum n => isUsableBound n
  | .maximum n => isUsableBound n
  | .pattern source => (patternRegex? source).isSome
  | .items s => isUsable s
  | .anyOf ss => areUsableSchemas ss
  | .members properties _ patterns additional =>
    areUsableProperties properties && areUsablePatterns patterns && isUsable additional
  | _ => true

def areUsableSchemas : List JsonSchema → Bool
  | [] => true
  | s :: rest => isUsable s && areUsableSchemas rest

def areUsableProperties : List (String × JsonSchema) → Bool
  | [] => true
  | (_, s) :: rest => isUsable s && areUsableProperties rest

/-- The patterns of keys are written here and always well-formed, so only their schemas are looked at. Left out is that
the pattern of integer keys, too, has a size: it passes `Regex.sizeLimit` where hundreds of thousands of digits stand in
the names that it leaves out. -/
def areUsablePatterns : List (KeyPattern × JsonSchema) → Bool
  | [] => true
  | (_, s) :: rest => isUsable s && areUsablePatterns rest

end

/-- The exact value of a number. -/
def exactValue? : Json → Option ExactNumber
  | .integer i => some (.ofInt i)
  | .float x => some (.ofFloat x)
  | _ => none

def exactBound : Number → ExactNumber
  | .int i => .ofInt i.toInt
  | .float x => .ofFloat x

/-- Whether a value has a type; floats without a fraction are integers too. -/
def hasType (j : Json) (name : String) : Bool :=
  match j with
  | .null => name == "null"
  | .bool _ => name == "boolean"
  | .integer _ => name == "number" || name == "integer"
  | .float x => name == "number" || (name == "integer" && (ExactNumber.ofFloat x).isIntegral)
  | .string _ => name == "string"
  | .array _ => name == "array"
  | .object _ => name == "object"

/-- A number of things in words. -/
def counted (n : Nat) (thing : String) : String :=
  toString n ++ " " ++ thing ++ if n = 1 then "" else "s"

/-- Alternatives between commas, in alphabetical order. -/
def typeNames (names : List String) : String :=
  ", ".intercalate ((names.mergeSort fun a b => a ≤ b).map Json.quote)

/-- The message of a violation by the value at fault. -/
def complain (node : Pointer) (j : Json) (rest : String) : List Violation := [⟨node.text, j.compact ++ rest⟩]

/-- The violations of a keyword that looks at a value as a whole. -/
def scalarViolations (node : Pointer) (j : Json) : Keyword → List Violation
  | .type names =>
    if names.any (hasType j) then []
    else
      match names with
      | [name] => complain node j (" is not of type " ++ Json.quote name)
      | _ => complain node j (" is not of types " ++ typeNames names)
  | .minimum n =>
    match exactValue? j with
    | some x =>
      if x.lt (exactBound n) then complain node j (" is less than the minimum of " ++ (writeBound n).compact) else []
    | none => []
  | .maximum n =>
    match exactValue? j with
    | some x =>
      if (exactBound n).lt x then complain node j (" is greater than the maximum of " ++ (writeBound n).compact) else []
    | none => []
  | .minLength n =>
    match j with
    | .string s => if s.length < n then complain node j (" is shorter than " ++ counted n "character") else []
    | _ => []
  | .maxLength n =>
    match j with
    | .string s => if n < s.length then complain node j (" is longer than " ++ counted n "character") else []
    | _ => []
  | .pattern source =>
    match j, patternRegex? source with
    | .string s, some r =>
      if r.matchesWithin s then [] else complain node j (" does not match \"" ++ source ++ "\"")
    | _, _ => []
  | .minItems n =>
    match j with
    | .array items => if items.length < n then complain node j (" has less than " ++ counted n "item") else []
    | _ => []
  | .maxItems n =>
    match j with
    | .array items => if n < items.length then complain node j (" has more than " ++ counted n "item") else []
    | _ => []
  | _ => []

/-- The violations of an object that lacks members. -/
def requiredViolations (node : Pointer) (j : Json) (names : List String) : List Violation :=
  match j with
  | .object ms =>
    names.flatMap fun name =>
      if Entries.contains name ms then [] else [⟨node.text, Json.quote name ++ " is a required property"⟩]
  | _ => []

/-- The complaint of the schema that nothing meets. -/
def neverAllowed (node : Pointer) (j : Json) : List Violation :=
  [⟨node.text, "False schema does not allow " ++ j.compact⟩]

/-- The complaint about members that may not be there. -/
def unexpected (node : Pointer) : List String → List Violation
  | [] => []
  | [name] => [⟨node.text, "Additional properties are not allowed ('" ++ name ++ "' was unexpected)"⟩]
  | names =>
    let quoted := ", ".intercalate (names.map fun n => "'" ++ n ++ "'")
    [⟨node.text, "Additional properties are not allowed (" ++ quoted ++ " were unexpected)"⟩]

/-- A schema as a function from nodes to violations. -/
abbrev Checker := Pointer → Json → List Violation

/-- What a schema says about the members of an object, with its parts as checkers. Nothing may stand in for the
additional members. -/
structure MemberRules where
  properties : List (String × Checker)
  patterns : List (KeyPattern × Checker)
  additional : Option Checker

namespace MemberRules

/-- The checkers of the patterns a key matches. -/
def matching (r : MemberRules) (key : String) : List Checker :=
  r.patterns.filterMap fun (p, check) => if p.matchesKey key then some check else none

/-- The checkers that apply to a member: that of its own entry and those of the patterns it matches, and if there
are none, that of additional members. -/
def checkers (r : MemberRules) (key : String) : List Checker :=
  match Entries.get? key r.properties, r.matching key with
  | some check, others => check :: others
  | none, [] => r.additional.toList
  | none, others => others

/-- Whether a member is covered by nothing. -/
def isUnexpected (r : MemberRules) (key : String) : Bool := (r.checkers key).isEmpty

/-- The complaint about the members that nothing covers. They are reported together, but where no key is expected at
all, the first of them is held against the schema that nothing meets. -/
def strangers (r : MemberRules) (node : Pointer) (ms : List (String × Json)) : List Violation :=
  let uncovered := ms.filter fun (key, _) => r.isUnexpected key
  if r.properties.isEmpty && r.patterns.isEmpty then
    match uncovered with
    | [] => []
    | (_, v) :: _ => neverAllowed node v
  else unexpected node (Entries.keys uncovered)

/-- The violations of the members of an object. -/
def violations (r : MemberRules) (node : Pointer) (j : Json) : List Violation :=
  match j with
  | .object ms =>
    (ms.flatMap fun (key, v) => (r.checkers key).flatMap fun check => check (node.child key) v) ++ r.strangers node ms
  | _ => []

end MemberRules

mutual

/-- The violations of a schema by the value at a node. -/
def violations : JsonSchema → Checker
  | never => neverAllowed
  | all keywords => fun node j => keywordsViolations keywords node j

def keywordsViolations : List Keyword → Checker
  | [] => fun _ _ => []
  | k :: rest => fun node j => keywordViolations k node j ++ keywordsViolations rest node j

def keywordViolations : Keyword → Checker
  | .items s => fun node j =>
    match j with
    | .array items => items.zipIdx.flatMap fun (item, i) => violations s (node.child (toString i)) item
    | _ => []
  | .anyOf ss => fun node j =>
    if (schemasViolations ss).any fun check => (check node j).isEmpty then []
    else complain node j " is not valid under any of the schemas listed in the 'anyOf' keyword"
  | .required names => fun node j => requiredViolations node j names
  | .members properties required patterns additional => fun node j =>
    let rules : MemberRules :=
      { properties := propertiesViolations properties
        patterns := patternsViolations patterns
        additional := additionalViolations additional }
    requiredViolations node j required ++ rules.violations node j
  | k => fun node j => scalarViolations node j k

def schemasViolations : List JsonSchema → List Checker
  | [] => []
  | s :: rest => violations s :: schemasViolations rest

def propertiesViolations : List (String × JsonSchema) → List (String × Checker)
  | [] => []
  | (name, s) :: rest => (name, violations s) :: propertiesViolations rest

def patternsViolations : List (KeyPattern × JsonSchema) → List (KeyPattern × Checker)
  | [] => []
  | (p, s) :: rest => (p, violations s) :: patternsViolations rest

/-- The checker of additional members, unless there may be none. -/
def additionalViolations : JsonSchema → Option Checker
  | never => none
  | all keywords => some fun node j => keywordsViolations keywords node j

end

end JsonSchema

namespace Schema

/-- Checks an encoded document against the JSON Schema of a schema. -/
def check (s : Schema) (document : Json) : Except JsonSchemaError Unit :=
  let exported := s.jsonSchema
  if !exported.isUsable then .error .badSchema
  else
    match JsonSchema.violations exported [] document with
    | [] => .ok ()
    | violations => .error (.invalid violations)

end Schema

end TypedDocument
