import TypedDocument.Json.Basic
import TypedDocument.Number.Reading
import TypedDocument.Number.Width

/-!
# JSON number literals

A literal without point and exponent that fits a 64-bit integer is read exactly. Every other literal becomes a float
by a short calculation that favours speed over the last digit: the digits are gathered in a 64-bit significand,
digits that no longer fit only count (before the point) or are dropped (behind it), and the significand, rounded to a
float, is multiplied or divided once by a power of ten. A result beyond the largest float is refused.
-/

namespace TypedDocument.Json

/-- The greatest significand. -/
def maxSignificand : Nat := UInt64.size - 1

/-- Appends digits to a significand as long as it fits 64 bits, and gives back the digits that did not. -/
def gather : Nat → List Char → Nat × List Char
  | n, [] => (n, [])
  | n, c :: cs =>
    let next := 10 * n + (c.toNat - '0'.toNat)
    if maxSignificand < next then (n, c :: cs) else gather next cs

/-- The float nearest to a power of ten. -/
def powerOfTen (n : Nat) : Float := Float.ofScientific 1 false n

/-- Division by a power of ten, in steps because `1e308` is the greatest power that is a float. -/
def divideByPower (x : Float) (n : Nat) : Float :=
  if n ≤ 308 then x / powerOfTen n
  else if x == 0.0 then x
  else divideByPower (x / powerOfTen 308) (n - 308)
termination_by n

/-- Multiplication by a power of ten; `none` when the product is too large for a float. -/
def multiplyByPower (x : Float) (n : Nat) : Option Float :=
  if n ≤ 308 then
    let product := x * powerOfTen n
    if product.isInf then none else some product
  else if x == 0.0 then some x
  else none

/-- The float of a literal from its sign, significand and decimal exponent. -/
def scaled? (negative : Bool) (significand : Nat) (exponent : Int) : Option Json :=
  let x := Float.ofNat significand
  let magnitude :=
    if exponent < 0 then some (divideByPower x exponent.natAbs) else multiplyByPower x exponent.toNat
  magnitude.map fun m => float (if negative then -m else m)

/-- The rest of a literal behind its `e`: an exponent to be added to the one the digits already gave. Exponents
beyond 32 bits are decided by their sign alone. -/
def readExponent? (negative : Bool) (significand : Nat) (start : Int) (cs : List Char) :
    Option (Json × List Char) :=
  let (down, body) := match cs with
    | '+' :: rest => (false, rest)
    | '-' :: rest => (true, rest)
    | _ => (false, cs)
  let digits := body.takeWhile Char.isDigit
  let rest := body.dropWhile Char.isDigit
  if digits.isEmpty then none
  else
    let e := digitsValue 0 digits
    if !fitsInt32 e then
      if significand ≠ 0 && !down then none
      else some (float (if negative then -0.0 else 0.0), rest)
    else (scaled? negative significand (if down then start - e else start + e)).map (·, rest)

/-- A float literal from the point on, or without one from its exponent on. -/
def readFraction? (negative : Bool) (significand : Nat) (start : Int) (cs : List Char) :
    Option (Json × List Char) :=
  match cs with
  | '.' :: body =>
    let digits := body.takeWhile Char.isDigit
    let rest := body.dropWhile Char.isDigit
    if digits.isEmpty then none
    else
      let (filled, dropped) := gather significand digits
      let exponent := start - (digits.length - dropped.length : Nat)
      match rest with
      | 'e' :: r => readExponent? negative filled exponent r
      | 'E' :: r => readExponent? negative filled exponent r
      | _ => (scaled? negative filled exponent).map (·, rest)
  | 'e' :: r => readExponent? negative significand start r
  | 'E' :: r => readExponent? negative significand start r
  | _ => (scaled? negative significand start).map (·, cs)

/-- Whether a literal goes on behind its whole digits. -/
def isFloatLiteral : List Char → Bool
  | '.' :: _ => true
  | 'e' :: _ => true
  | 'E' :: _ => true
  | _ => false

/-- A number literal behind its optional minus sign. A leading zero stands alone. -/
def readNumber? (negative : Bool) (cs : List Char) : Option (Json × List Char) :=
  let digits := cs.takeWhile Char.isDigit
  let rest := cs.dropWhile Char.isDigit
  if digits.isEmpty || (digits.head? == some '0' && digits.length ≠ 1) then none
  else
    let (significand, dropped) := gather 0 digits
    if dropped.isEmpty && !isFloatLiteral rest then
      if !negative then some (integer significand, rest)
      else if significand = 0 || !fitsInt64 (-significand) then some (float (-(Float.ofNat significand)), rest)
      else some (integer (-(significand : Int)), rest)
    else readFraction? negative significand dropped.length rest

end TypedDocument.Json
