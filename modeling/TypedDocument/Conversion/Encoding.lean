import TypedDocument.Conversion.Decoding
import TypedDocument.Document.Equality

/-!
# Encoding documents and describing fields

Encoding turns a document into its JSON-safe form: days and times become texts in the layout of their field, and
fields under meta fields become their declarations. Describing a field writes it as a declaration, with only the
options that differ from those of a new field of its type. The two belong together: a value may be a field, and a field
may hold a value as its default, which is written in encoded form.
-/

namespace TypedDocument

namespace FieldKind

/-- Encodes a value that is neither a container nor a field. -/
def encodeScalar : FieldKind → Value → Value
  | dateTime, .dateTime t => .text t.text
  | date, .date d => .text d.text
  | date, .dateTime t => .text t.date.text
  | time, .time t => .text t.text
  | _, v => v

end FieldKind

namespace Number

/-- A bound as it is declared. -/
def describe : Number → Json
  | int i => .integer i.toInt
  | float x => .ofFloat x

end Number

/-- An option that is written only if it is set. -/
def optionMember {α : Type} (key : String) (write : α → Json) : Option α → List (String × Json)
  | some a => [(key, write a)]
  | none => []

/-- An option that is written only if it is on. -/
def flagMember (key : String) (on : Bool) : List (String × Json) := if on then [(key, .bool true)] else []

def Bounds.describe (b : Bounds) : List (String × Json) :=
  optionMember "min" Number.describe b.min ++ optionMember "max" Number.describe b.max

def TextRules.describe (r : TextRules) : List (String × Json) :=
  optionMember "length" Json.ofNat r.length ++ optionMember "min_len" Json.ofNat r.minLen ++
    optionMember "max_len" Json.ofNat r.maxLen ++ optionMember "match" (fun p => .string p.source) r.pattern

namespace FieldOptions

/-- The options of a field of some kind. Fields for null are always nullable, so nothing says so. -/
def describe (o : FieldOptions) (kind : FieldKind) : List (String × Json) :=
  let impliesNullable := match kind with
    | .null => true
    | _ => false
  flagMember "optional" o.optional ++ flagMember "can_be_none" (o.nullable && !impliesNullable) ++
    optionMember "title" .string o.title ++ optionMember "description" .string o.description

end FieldOptions

/-- Whether a field has nothing but its kind. Such a field for mappings is declared by its entries alone. -/
def Field.isPlain (options : FieldOptions) : Default → Bool
  | .unset => options == {}
  | _ => false

/-- Lists are empty by default, so the empty list is not written as a default. -/
def FieldKind.impliesDefault : FieldKind → Value → Bool
  | .list .., .list [] => true
  | _, _ => false

/-- A declaration from its parts. -/
def Field.declaration (kind : FieldKind) (options : FieldOptions) (rules default : List (String × Json)) : Json :=
  .object (("type", .string kind.name) :: rules ++ options.describe kind ++ default)

mutual

/-- Encodes a value by the field that governs it. -/
def Value.encode : Value → Field → Except ConvertError Value
  | .field g, f =>
    match f.kind with
    | .field => .ok (Value.ofJson (Field.describe g))
    | _ => .ok (.field g)
  | .list items, f =>
    match f.kind with
    | .list candidates _ _ => (Value.encodeItems items candidates).map .list
    | _ => .ok (.list items)
  | .map entries, f =>
    match f.kind with
    | .dict d => (Value.encodeEntries entries d).map .map
    | _ => .ok (.map entries)
  | v, f => .ok (f.kind.encodeScalar v)
termination_by structural v => v

/-- Encodes list elements, each by the first candidate that accepts it. -/
def Value.encodeItems : List Value → List Field → Except ConvertError (List Value)
  | [], _ => .ok []
  | v :: rest, candidates => do
    let w ← match candidates.find? fun f => f.kind.accepts v with
      | some f => Value.encode v f
      | none => .ok v
    let ws ← Value.encodeItems rest candidates
    return w :: ws
termination_by structural items => items

/-- Encodes the entries of a mapping in order. -/
def Value.encodeEntries : List (String × Value) → Dict → Except ConvertError (List (String × Value))
  | [], _ => .ok []
  | (key, v) :: rest, d => do
    let f ← asConvertError .unknownKey (Dict.fieldOf d key)
    let w ← asConvertError (ConvertError.under key) (Value.encode v f)
    let ws ← Value.encodeEntries rest d
    return (key, w) :: ws
termination_by structural es => es

/-- The declaration of a field. -/
def Field.describe : Field → Json
  | .mk kind options default =>
    Field.declaration kind options (FieldKind.describeRules kind) (Default.describe default (.mk kind options default))
termination_by structural f => f

/-- The declaration of a field as an entry of a schema. -/
def Field.describeEntry : Field → Json
  | .mk kind options default =>
    match if Field.isPlain options default then FieldKind.describeNested kind else none with
    | some nested => nested
    | none =>
      Field.declaration kind options (FieldKind.describeRules kind)
        (Default.describe default (.mk kind options default))
termination_by structural f => f

/-- The members that state the rules of a kind. -/
def FieldKind.describeRules : FieldKind → List (String × Json)
  | .int b => b.describe
  | .long b => b.describe
  | .float b => b.describe
  | .text r => r.describe
  | .list candidates least most =>
    (if candidates.isEmpty then [] else [("fields", .array (Field.describeAll candidates))]) ++
      (if 0 < least then [("min_len", .ofNat least)] else []) ++ optionMember "max_len" Json.ofNat most
  | .dict fields => [("schema", .object (Entries.ofList (Field.describeEntries fields)))]
  | _ => []
termination_by structural k => k

/-- The entries of a nested mapping, for kinds that describe one. -/
def FieldKind.describeNested : FieldKind → Option Json
  | .dict fields => some (.object (Entries.ofList (Field.describeEntries fields)))
  | _ => none
termination_by structural k => k

def Field.describeAll : List Field → List Json
  | [] => []
  | f :: rest => Field.describe f :: Field.describeAll rest
termination_by structural fs => fs

/-- The entries of a schema by the texts of their keys. -/
def Field.describeEntries : List (SchemaKey × Field) → List (String × Json)
  | [] => []
  | (key, f) :: rest => (key.text, Field.describeEntry f) :: Field.describeEntries rest
termination_by structural es => es

/-- The default of a field. Counters cannot be declared, and neither can values that have no JSON form even when
they are encoded. -/
def Default.describe : Default → Field → List (String × Json)
  | .value v, f =>
    if f.kind.impliesDefault v then []
    else
      match (Value.encode v f).toOption.bind fun w => w.toJson.toOption with
      | some j => [("default", j)]
      | none => []
  | _, _ => []
termination_by structural d => d

end

namespace Field

/-- Encodes a value that the field governs. -/
def encode (f : Field) (v : Value) : Except ConvertError Value := v.encode f

end Field

end TypedDocument
