import TypedDocument.Document.Basic
import TypedDocument.Json.Basic
import TypedDocument.Number.Width

/-!
# Documents as JSON values

A JSON value is a raw document: integers become 32-bit or 64-bit values by their size, and what fits neither becomes a
float. In the other direction days, times, fields and non-finite floats have no JSON form; they first have to be
converted by the field that governs them.
-/

namespace TypedDocument

/-- Why a value has no JSON form. -/
inductive JsonFault where
  /-- The value is a day, a time or a field. -/
  | notJson (type : ValueType)
  | notFinite (x : Float)

namespace JsonFault

def message : JsonFault → String
  | notJson type => "value of type " ++ type.name ++ " has no JSON representation"
  | notFinite x => "float " ++ FloatNotation.plain.write x ++ " has no JSON representation"

end JsonFault

namespace Value

/-- An integer in the smallest type it fits. -/
def ofInteger (i : Int) : Value :=
  if fitsInt32 i then int (Int32.ofInt i)
  else if fitsInt64 i then long (Int64.ofInt i)
  else float (Float.ofInt i)

mutual

/-- The raw document of a JSON value. -/
def ofJson : Json → Value
  | .null => null
  | .bool b => bool b
  | .integer i => ofInteger i
  | .float x => float x
  | .string s => text s
  | .array items => list (ofJsonItems items)
  | .object members => map (ofJsonMembers members)

def ofJsonItems : List Json → List Value
  | [] => []
  | j :: rest => ofJson j :: ofJsonItems rest

def ofJsonMembers : List (String × Json) → List (String × Value)
  | [] => []
  | (k, j) :: rest => (k, ofJson j) :: ofJsonMembers rest

end

mutual

/-- The JSON form of a value. The fault is that of the first part, in document order, that has none. -/
def toJson : Value → Except JsonFault Json
  | .null => .ok .null
  | .bool b => .ok (.bool b)
  | .int i => .ok (.integer i.toInt)
  | .long i => .ok (.integer i.toInt)
  | .float x => if x.isFinite then .ok (.float x) else .error (.notFinite x)
  | .text s => .ok (.string s)
  | .dateTime _ => .error (.notJson .dateTime)
  | .date _ => .error (.notJson .date)
  | .time _ => .error (.notJson .time)
  | .list items => (toJsonItems items).map .array
  | .map entries => (toJsonMembers entries).map .object
  | .field _ => .error (.notJson .field)
termination_by structural v => v

def toJsonItems : List Value → Except JsonFault (List Json)
  | [] => .ok []
  | v :: rest => do
    let j ← toJson v
    let js ← toJsonItems rest
    return j :: js
termination_by structural items => items

def toJsonMembers : List (String × Value) → Except JsonFault (List (String × Json))
  | [] => .ok []
  | (k, v) :: rest => do
    let j ← toJson v
    let js ← toJsonMembers rest
    return (k, j) :: js
termination_by structural entries => entries

end

end Value

end TypedDocument
