/-!
# Reading decimal numbers

A float is read from its decimal text by rounding the exact decimal to the nearest float. The exponent is clamped
before rounding: decimals beyond `1e400` are infinite and below `1e-400` zero, so no huge power is ever formed.
-/

namespace TypedDocument

/-- The value of a run of decimal digits after the digits already read. -/
def digitsValue (start : Nat) (digits : List Char) : Nat :=
  digits.foldl (fun n c => 10 * n + (c.toNat - '0'.toNat)) start

/-- A decimal integer with an optional sign and at least one digit, and nothing else. -/
def readInteger? (cs : List Char) : Option Int :=
  let (negative, digits) := match cs with
    | '-' :: rest => (true, rest)
    | '+' :: rest => (false, rest)
    | _ => (false, cs)
  if digits.isEmpty || !digits.all Char.isDigit then none
  else
    let n : Int := digitsValue 0 digits
    some (if negative then -n else n)

/-- The float nearest to `mantissa * 10 ^ exponent`. -/
def nearestFloat (mantissa : Nat) (exponent : Int) : Float :=
  if mantissa = 0 then 0.0
  else if 400 < exponent then 1.0 / 0.0
  else if (Nat.toDigits 10 mantissa).length + exponent < -400 then 0.0
  else Float.ofScientific mantissa (exponent < 0) exponent.natAbs

/-- An unsigned decimal float: digits with an optional point, of which at least one is present, and an optional
exponent. -/
def readMagnitude? (cs : List Char) : Option Float :=
  let whole := cs.takeWhile Char.isDigit
  let afterWhole := cs.dropWhile Char.isDigit
  let (fraction, rest) := match afterWhole with
    | '.' :: r => (r.takeWhile Char.isDigit, r.dropWhile Char.isDigit)
    | r => ([], r)
  let mantissa := digitsValue 0 (whole ++ fraction)
  let scale : Int := -fraction.length
  if whole.isEmpty && fraction.isEmpty then none
  else match rest with
    | [] => some (nearestFloat mantissa scale)
    | c :: exponent =>
      if c = 'e' || c = 'E' then
        (readInteger? exponent).map fun e => nearestFloat mantissa (scale + e)
      else none

/-- A float as text: an optional sign, then a decimal, `inf`, `infinity` or `nan` in any case. -/
def readFloat? (s : String) : Option Float :=
  let cs := s.toList
  let (negative, body) := match cs with
    | '-' :: rest => (true, rest)
    | '+' :: rest => (false, rest)
    | _ => (false, cs)
  let word := String.ofList (body.map Char.toLower)
  let magnitude :=
    if word = "nan" then some (0.0 / 0.0)
    else if word = "inf" || word = "infinity" then some (1.0 / 0.0)
    else readMagnitude? body
  magnitude.map fun x => if negative then -x else x

end TypedDocument
