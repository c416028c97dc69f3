/-!
# The fewest decimal digits that read back as a given float

A positive finite float is `mantissa * 2 ^ exponent`, and the reals that round to it form an interval around it.
`Dyadic.shortest` looks for a decimal in that interval on the grids `10 ^ k`, coarsest grid first, and on the first
grid that has one takes the one nearest to the float. Only the two neighbours of the float on a grid have to be
tried: if any point of the grid lies in the interval, so does one of them. Everything is exact `Nat` arithmetic.
-/

namespace TypedDocument

/-- A positive finite float `mantissa * 2 ^ exponent`. At a power of two the float below is only half as far away
as the float above, and `narrowBelow` records that. -/
structure Dyadic where
  mantissa : Nat
  exponent : Int
  narrowBelow : Bool
deriving Repr, DecidableEq

namespace Dyadic

/-- The magnitude stored in the low 63 bits of a finite binary64 number: eleven bits of exponent over fifty-two bits
of fraction, with an implicit leading one unless the exponent is zero. -/
def ofBits (bits : Nat) : Dyadic :=
  let biased : Nat := (bits >>> 52) % 2048
  let fraction : Nat := bits % (1 <<< 52)
  if biased = 0 then ⟨fraction, -1074, false⟩
  else ⟨fraction + 1 <<< 52, (biased : Int) - 1075, fraction = 0 && 1 < biased⟩

end Dyadic

/-- What to do when a float lies exactly halfway between two shortest decimals. -/
inductive Tie where
  | up
  | toEven
deriving Repr, DecidableEq

/-- A positive decimal `digits * 10 ^ exponent`. -/
structure Decimal where
  digits : Nat
  exponent : Int
deriving Repr, DecidableEq

namespace Dyadic

/-- The two scales that compare the float with grid points of `10 ^ k`: after multiplying out, quarter units of the
float's last place weigh `fst` and a grid step weighs `snd`. -/
def scales (d : Dyadic) (k : Int) : Nat × Nat :=
  let quarter := d.exponent - 2
  (Nat.pow 10 (-k).toNat <<< quarter.toNat, Nat.pow 10 k.toNat <<< (-quarter).toNat)

/-- Whether the decimal `c * 10 ^ k` rounds to the float. The ends of the interval round to the float exactly when
its mantissa is even. -/
def covers (d : Dyadic) (k : Int) (c : Nat) : Bool :=
  let (unit, step) := d.scales k
  let lower := (4 * d.mantissa - if d.narrowBelow then 1 else 2) * unit
  let upper := (4 * d.mantissa + 2) * unit
  if d.mantissa % 2 = 0 then lower ≤ c * step && c * step ≤ upper
  else lower < c * step && c * step < upper

/-- The grid point of `10 ^ k` at or below the float. -/
def floorOn (d : Dyadic) (k : Int) : Nat :=
  let (unit, step) := d.scales k
  4 * d.mantissa * unit / step

/-- Whether the float is nearer to the grid point above it than to the one below it. -/
def upperIsNearer (tie : Tie) (d : Dyadic) (k : Int) : Bool :=
  let (unit, step) := d.scales k
  let floor := d.floorOn k
  let twice := 2 * (4 * d.mantissa * unit)
  let middle := (2 * floor + 1) * step
  if twice = middle then
    match tie with
    | .up => true
    | .toEven => floor % 2 = 1
  else middle < twice

/-- The grid point of `10 ^ k` nearest to the float among those that round to it. -/
def onGrid (tie : Tie) (d : Dyadic) (k : Int) : Option Decimal :=
  let floor := d.floorOn k
  match d.covers k floor, d.covers k (floor + 1) with
  | true, true => some ⟨if d.upperIsNearer tie k then floor + 1 else floor, k⟩
  | true, false => some ⟨floor, k⟩
  | false, true => some ⟨floor + 1, k⟩
  | false, false => none

/-- The exponent of the first decimal digit of the float. -/
def decimalOrder (d : Dyadic) : Int :=
  let high := d.mantissa <<< d.exponent.toNat
  let low := 1 <<< (-d.exponent).toNat
  if low ≤ high then (Nat.toDigits 10 (high / low)).length - 1
  else -(Nat.toDigits 10 ((low - 1) / high)).length

/-- The decimal with the fewest digits that rounds to the float, and of those the nearest. Seventeen digits always
suffice, so the eighteen grids tried here contain one. -/
def shortest (tie : Tie) (d : Dyadic) : Decimal :=
  let order := d.decimalOrder + 1
  ((List.range 18).findSome? fun n : Nat => d.onGrid tie (order - n)).getD ⟨d.mantissa, 0⟩

end Dyadic

end TypedDocument
