import TypedDocument.Number.Shortest

/-!
# Exact comparison

Integers of any size and finite floats are all of the form `mantissa * 2 ^ exponent`, and in that form they can be
compared without rounding.
-/

namespace TypedDocument

/-- The number `mantissa * 2 ^ exponent`. -/
structure ExactNumber where
  mantissa : Int
  exponent : Int
deriving DecidableEq, Repr

namespace ExactNumber

def ofInt (i : Int) : ExactNumber := ⟨i, 0⟩

/-- The value of a finite float. -/
def ofFloat (x : Float) : ExactNumber :=
  let bits := x.toBits.toNat
  let d := Dyadic.ofBits bits
  ⟨if bits >>> 63 = 1 then -d.mantissa else d.mantissa, d.exponent⟩

/-- Whether one number is less than another. -/
def lt (a b : ExactNumber) : Bool :=
  let least := min a.exponent b.exponent
  a.mantissa * Nat.pow 2 (a.exponent - least).toNat < b.mantissa * Nat.pow 2 (b.exponent - least).toNat

/-- Whether a number has no fraction. -/
def isIntegral (a : ExactNumber) : Bool := 0 ≤ a.exponent || a.mantissa % Nat.pow 2 (-a.exponent).toNat == 0

end ExactNumber

end TypedDocument
