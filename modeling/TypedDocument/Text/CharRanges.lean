/-!
# Sets of characters as ranges

The tables of character properties are texts in which ranges of hexadecimal code points stand between blanks: `41-5A`
is a full range, `100:136` every other code point of one, and a single code point stands for itself.
-/

namespace TypedDocument

/-- The code points `low`, `low + step`, … up to `high`. -/
structure CharRange where
  low : Nat
  high : Nat
  step : Nat
deriving Repr, DecidableEq

namespace CharRange

def contains (r : CharRange) (c : Nat) : Bool := r.low ≤ c && c ≤ r.high && (c - r.low) % r.step == 0

/-- All code points from `low` to `high`. -/
def upTo (low high : Nat) : CharRange := ⟨low, high, 1⟩

/-- All characters from `a` to `b`. -/
def chars (a b : Char) : CharRange := upTo a.toNat b.toNat

end CharRange

/-- A union of ranges. -/
abbrev CharRanges := List CharRange

namespace CharRanges

def contains (rs : CharRanges) (c : Nat) : Bool := rs.any (·.contains c)

/-- The value of an upper-case hexadecimal digit; other characters count as zero. -/
def hexValue (c : Char) : Nat :=
  if c.isDigit then c.toNat - '0'.toNat
  else if 'A' ≤ c && c ≤ 'F' then c.toNat - 'A'.toNat + 10
  else 0

/-- Reads a table from left to right. `low` and `step` describe the range that has been opened, if any, and `point`
is the code point whose digits are being read. -/
def readTable : (low : Option (Nat × Nat)) → (point : Option Nat) → List Char → CharRanges
  | low, point, [] => close low point
  | low, point, c :: cs =>
    if c = ' ' || c = '\n' then close low point ++ readTable none none cs
    else if c = '-' then readTable (some (point.getD 0, 1)) none cs
    else if c = ':' then readTable (some (point.getD 0, 2)) none cs
    else readTable low (some (16 * point.getD 0 + hexValue c)) cs
where
  /-- The range that ends at a blank. -/
  close : Option (Nat × Nat) → Option Nat → CharRanges
    | _, none => []
    | none, some p => [⟨p, p, 1⟩]
    | some (low, step), some p => [⟨low, p, step⟩]

def ofTable (table : String) : CharRanges := readTable none none table.toList

end CharRanges

end TypedDocument
