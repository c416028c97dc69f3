import TypedDocument.Number.Notation
import TypedDocument.Number.Width

/-!
# Numbers that are compared

Bounds and numeric values are either 64-bit integers or floats. Two integers are compared exactly; as soon as a
float takes part, both sides are compared as floats, so NaN is comparable with nothing.
-/

namespace TypedDocument

/-- A bound of a numeric field, or a value held against one. -/
inductive Number where
  | int (i : Int64)
  | float (x : Float)
deriving BEq, Inhabited

namespace Number

/-- The nearest float. -/
def toFloat : Number → Float
  | int i => floatOfInt64 i
  | float x => x

def isNaN : Number → Bool
  | int _ => false
  | float x => x.isNaN

/-- The order of two floats; `none` when one of them is NaN. -/
def compareFloats (a b : Float) : Option Ordering :=
  if a < b then some .lt
  else if a == b then some .eq
  else if b < a then some .gt
  else none

/-- The order of two numbers, exact between integers. -/
def compare? : Number → Number → Option Ordering
  | int a, int b => some (compare a.toInt b.toInt)
  | a, b => compareFloats a.toFloat b.toFloat

def lt (a b : Number) : Bool := a.compare? b == some .lt

/-- The written form in messages: integers plain, floats in the plain notation. -/
def text : Number → String
  | int i => toString i.toInt
  | float x => FloatNotation.plain.write x

end Number

end TypedDocument
