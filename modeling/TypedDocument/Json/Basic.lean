import TypedDocument.Entries

/-!
# JSON values

Numbers are integers or finite floats, and objects keep the order of their members.
-/

namespace TypedDocument

/-- A JSON value. Integers reach from the least 64-bit signed to the greatest 64-bit unsigned one; a number outside
that range, or written with a point or an exponent, is a float. -/
inductive Json where
  | null
  | bool (b : Bool)
  | integer (i : Int)
  | float (x : Float)
  | string (s : String)
  | array (items : List Json)
  | object (members : List (String × Json))
deriving Inhabited

namespace Json

/-- The name of a value's JSON type. -/
def typeName : Json → String
  | null => "null"
  | bool _ => "boolean"
  | integer _ => "number"
  | float _ => "number"
  | string _ => "string"
  | array _ => "array"
  | object _ => "object"

/-- A finite float as a number; the non-finite ones have no JSON form and become null. -/
def ofFloat (x : Float) : Json := if x.isFinite then float x else null

/-- A length or count. -/
def ofNat (n : Nat) : Json := integer n

/-- The members of an object. -/
def members? : Json → Option (List (String × Json))
  | object ms => some ms
  | _ => none

def string? : Json → Option String
  | string s => some s
  | _ => none

/-- The member of an object at a key. -/
def member? (key : String) : Json → Option Json
  | object ms => Entries.get? key ms
  | _ => none

end Json

end TypedDocument
