import TypedDocument.Conversion.Error
import TypedDocument.Document.Json
import TypedDocument.Number.Width

/-!
# Decoding documents

Decoding turns a raw document into the form its fields describe: numbers take the type of their field, texts under
day and time fields are read, and mappings under meta fields are read as declarations. Null stays null, and whatever
has the wrong type passes unchanged and is left to validation. How declarations are read is a parameter here, because
reading a declaration in turn decodes its default.
-/

namespace TypedDocument

/-- How a field is read from its declaration. -/
abbrev DeclarationReader := Json → Except DeclarationError Field

namespace FieldKind

/-- A text read by a layout, or the error that it does not fit. -/
def readText {α : Type} (s : String) (layout : Layout) (make : α → Value) :
    Except LayoutFault α → Except ConvertError Value
  | .ok a => .ok (make a)
  | .error fault => .error (.badDateTime s layout.text fault)

/-- Decodes a value that is no container. -/
def decodeScalar : FieldKind → Value → Except ConvertError Value
  | int _, .long i =>
    .ok (if fitsInt32 i.toInt then .int i.toInt32 else .long i)
  | long _, .int i => .ok (.long i.toInt64)
  | float _, .int i => .ok (.float (floatOfInt64 i.toInt64))
  | float _, .long i => .ok (.float (floatOfInt64 i))
  | dateTime, .text s => readText s .dateTime .dateTime (DateTime.read s)
  | date, .text s => readText s .date .date (Date.read s)
  | time, .text s => readText s .time .time (Time.read s)
  | _, v => .ok v

end FieldKind

/-- Raises an error as one of conversion. -/
def asConvertError {ε α : Type} (wrap : ε → ConvertError) : Except ε α → Except ConvertError α
  | .ok a => .ok a
  | .error e => .error (wrap e)

mutual

/-- Decodes a value by the field that governs it. -/
def Value.decodeWith (declare : DeclarationReader) : Value → Field → Except ConvertError Value
  | .null, _ => .ok .null
  | .list items, f =>
    match f.kind with
    | .list candidates _ _ => .ok (.list (Value.decodeItems declare candidates items))
    | _ => .ok (.list items)
  | .map entries, f =>
    match f.kind with
    | .dict d => (Value.decodeEntries declare d entries).map .map
    | .field => do
      let j ← asConvertError .json (Value.toJson (.map entries))
      let g ← asConvertError .declaration (declare j)
      return .field g
    | _ => .ok (.map entries)
  | v, f => f.kind.decodeScalar v
termination_by structural v => v

/-- Decodes list elements, each by the first candidate that makes a value of its own type of it. -/
def Value.decodeItems (declare : DeclarationReader) (candidates : List Field) : List Value → List Value
  | [] => []
  | v :: rest =>
    let decoded := candidates.findSome? fun f =>
      match Value.decodeWith declare v f with
      | .ok w => if f.kind.accepts w then some w else none
      | .error _ => none
    decoded.getD v :: Value.decodeItems declare candidates rest
termination_by structural items => items

/-- Decodes the entries of a mapping in order. -/
def Value.decodeEntries (declare : DeclarationReader) (d : Dict) :
    List (String × Value) → Except ConvertError (List (String × Value))
  | [] => .ok []
  | (key, v) :: rest => do
    let f ← asConvertError .unknownKey (Dict.fieldOf d key)
    let w ← asConvertError (ConvertError.under key) (Value.decodeWith declare v f)
    let ws ← Value.decodeEntries declare d rest
    return (key, w) :: ws
termination_by structural es => es

end

end TypedDocument
