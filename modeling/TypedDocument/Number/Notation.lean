import TypedDocument.Number.Shortest

/-!
# Written forms of floats

Two notations write the shortest digits of a float. Error messages use the plain one, which never has an exponent;
JSON texts use the one that switches to an exponent outside a window and marks integral values with `.0`.
-/

namespace TypedDocument

/-- The choices a notation makes once the digits are known. -/
structure FloatNotation where
  /-- Decimal exponents of the first digit that are written without an exponent. -/
  positional : Int → Bool
  /-- What follows the digits of an integral value. -/
  integralMark : String
  /-- Which way exact ties between two shortest decimals go. -/
  tie : Tie

namespace FloatNotation

/-- Messages write floats positionally, whatever their size. -/
def plain : FloatNotation := ⟨fun _ => true, "", .up⟩

/-- JSON texts write floats positionally from `1e-5` up to, but not including, `1e16`. -/
def json : FloatNotation := ⟨fun e => -5 ≤ e && e < 16, ".0", .toEven⟩

/-- The digits of a decimal with the point in its place and no exponent. -/
def writePositional (mark : String) (d : Decimal) : String :=
  let digits := Nat.toDigits 10 d.digits
  let point : Int := digits.length + d.exponent
  if 0 ≤ d.exponent then
    String.ofList (digits ++ List.replicate d.exponent.toNat '0') ++ mark
  else if 0 < point then
    String.ofList (digits.take point.toNat ++ '.' :: digits.drop point.toNat)
  else
    String.ofList ('0' :: '.' :: (List.replicate (-point).toNat '0' ++ digits))

/-- One digit before the point, and an exponent that always carries its sign. -/
def writeScientific (d : Decimal) : String :=
  let digits := Nat.toDigits 10 d.digits
  let exponent : Int := digits.length + d.exponent - 1
  let tail := match digits.drop 1 with
    | [] => []
    | rest => '.' :: rest
  let sign := if exponent < 0 then "e-" else "e+"
  String.ofList (digits.take 1 ++ tail) ++ sign ++ String.ofList (Nat.toDigits 10 exponent.natAbs)

/-- The written form of a positive finite magnitude. -/
def writeMagnitude (n : FloatNotation) (d : Dyadic) : String :=
  let shortest := d.shortest n.tie
  let order : Int := (Nat.toDigits 10 shortest.digits).length + shortest.exponent - 1
  if n.positional order then writePositional n.integralMark shortest
  else writeScientific shortest

/-- The written form of a float. Zero keeps its sign; NaN has none. -/
def write (n : FloatNotation) (x : Float) : String :=
  let bits := x.toBits.toNat
  let sign := if bits >>> 63 = 1 then "-" else ""
  if x.isNaN then "NaN"
  else if x.isInf then sign ++ "inf"
  else
    let d := Dyadic.ofBits bits
    if d.mantissa = 0 then sign ++ "0" ++ n.integralMark
    else sign ++ n.writeMagnitude d

end FloatNotation

end TypedDocument
