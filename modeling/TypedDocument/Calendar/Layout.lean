import TypedDocument.Calendar.Time
import TypedDocument.Number.Reading
import TypedDocument.Number.Width
import TypedDocument.Text.Property

/-!
# Written forms of days and times

A layout is a list of numbers and fixed marks. Writing pads every number to its usual width. Reading is a little more
generous: numbers may be shorter, blanks may stand before them, and a year with a sign may have any number of digits.
-/

namespace TypedDocument

/-- A part of a layout. -/
inductive LayoutPart where
  | year
  | month
  | day
  | hour
  | minute
  | second
  | mark (c : Char)
deriving DecidableEq, Repr

abbrev Layout := List LayoutPart

/-- Why a text cannot be read by a layout. -/
inductive LayoutFault where
  | tooShort
  | badCharacter
  | outOfRange
  | trailing
deriving DecidableEq, Repr

namespace LayoutFault

def message : LayoutFault → String
  | tooShort => "premature end of input"
  | badCharacter => "input contains invalid characters"
  | outOfRange => "input is out of range"
  | trailing => "trailing input"

end LayoutFault

/-- The numbers a text gave for the parts of a layout. -/
structure LayoutNumbers where
  year : Int := 0
  month : Nat := 1
  day : Nat := 1
  hour : Nat := 0
  minute : Nat := 0
  second : Nat := 0
deriving DecidableEq, Repr

namespace LayoutPart

/-- A part as it stands in the description of a layout. -/
def text : LayoutPart → String
  | year => "%Y"
  | month => "%m"
  | day => "%d"
  | hour => "%H"
  | minute => "%M"
  | second => "%S"
  | mark c => String.singleton c

/-- A number with zeros in front up to a width. -/
def padded (width n : Nat) : List Char :=
  let digits := Nat.toDigits 10 n
  List.replicate (width - digits.length) '0' ++ digits

/-- A year has at least four digits, and a sign outside 0 to 9999. -/
def writeYear (y : Int) : List Char :=
  if 0 ≤ y && y ≤ 9999 then padded 4 y.toNat
  else if y < 0 then '-' :: padded 4 y.natAbs
  else '+' :: padded 4 y.toNat

def write (n : LayoutNumbers) : LayoutPart → List Char
  | year => writeYear n.year
  | month => padded 2 n.month
  | day => padded 2 n.day
  | hour => padded 2 n.hour
  | minute => padded 2 n.minute
  | second => padded 2 n.second
  | mark c => [c]

/-- Decimal digits, at least one and at most `width` if there is a width. -/
def readDigits (width : Option Nat) (cs : List Char) : Except LayoutFault (Nat × List Char) :=
  match cs with
  | [] => .error .tooShort
  | c :: _ =>
    if !c.isDigit then .error .badCharacter
    else
      let window := match width with
        | some w => cs.take w
        | none => cs
      let digits := window.takeWhile Char.isDigit
      .ok (digitsValue 0 digits, cs.drop digits.length)

/-- A year: up to four digits, or any number of them behind a sign. -/
def readYear (cs : List Char) : Except LayoutFault (Int × List Char) := do
  let (y, rest) ← match cs with
    | '-' :: body => do
      let (n, rest) ← readDigits none body
      pure (-(n : Int), rest)
    | '+' :: body => do
      let (n, rest) ← readDigits none body
      pure ((n : Int), rest)
    | _ => do
      let (n, rest) ← readDigits (some 4) cs
      pure ((n : Int), rest)
  if fitsInt32 y then return (y, rest) else throw .outOfRange

/-- A number of two digits at most between two limits. -/
def readWithin (low high : Nat) (cs : List Char) : Except LayoutFault (Nat × List Char) := do
  let (n, rest) ← readDigits (some 2) cs
  if low ≤ n && n ≤ high then return (n, rest) else throw .outOfRange

def skipBlanks (cs : List Char) : List Char := cs.dropWhile CharProperty.isWhiteSpace

/-- Reads one part from the start of a text. -/
def read (n : LayoutNumbers) (part : LayoutPart) (cs : List Char) :
    Except LayoutFault (LayoutNumbers × List Char) :=
  match part with
  | year => (readYear (skipBlanks cs)).map fun (y, rest) => ({ n with year := y }, rest)
  | month => (readWithin 1 12 (skipBlanks cs)).map fun (v, rest) => ({ n with month := v }, rest)
  | day => (readWithin 1 31 (skipBlanks cs)).map fun (v, rest) => ({ n with day := v }, rest)
  | hour => (readWithin 0 23 (skipBlanks cs)).map fun (v, rest) => ({ n with hour := v }, rest)
  | minute => (readWithin 0 59 (skipBlanks cs)).map fun (v, rest) => ({ n with minute := v }, rest)
  | second => (readWithin 0 60 (skipBlanks cs)).map fun (v, rest) => ({ n with second := v }, rest)
  | mark c =>
    match cs with
    | [] => .error .tooShort
    | d :: rest => if d = c then .ok (n, rest) else .error .badCharacter

end LayoutPart

namespace Layout

/-- The description of a layout. -/
def text (l : Layout) : String := String.join (l.map LayoutPart.text)

def write (l : Layout) (n : LayoutNumbers) : String := String.ofList (l.flatMap (LayoutPart.write n))

/-- The numbers of a text, part by part, and the rest of the text. -/
def readParts : Layout → LayoutNumbers → List Char → Except LayoutFault (LayoutNumbers × List Char)
  | [], n, cs => .ok (n, cs)
  | part :: parts, n, cs => do
    let (n, rest) ← part.read n cs
    readParts parts n rest

/-- The numbers of a text that a layout covers completely. -/
def read (l : Layout) (text : String) : Except LayoutFault LayoutNumbers := do
  let (n, rest) ← readParts l {} text.toList
  if rest.isEmpty then return n else throw .trailing

/-- Days: `2024-02-29`. -/
def date : Layout := [.year, .mark '-', .month, .mark '-', .day]

/-- Times: `23:59:60`. -/
def time : Layout := [.hour, .mark ':', .minute, .mark ':', .second]

/-- Days with a time: `2024-02-29T23:59:60Z`. -/
def dateTime : Layout := date ++ .mark 'T' :: time ++ [.mark 'Z']

end Layout

namespace LayoutNumbers

def ofDate (d : Date) : LayoutNumbers := { year := d.year, month := d.month, day := d.day }

def ofTime (t : Time) : LayoutNumbers := { hour := t.hour, minute := t.minute, second := t.shownSecond }

def ofDateTime (t : DateTime) : LayoutNumbers :=
  { ofDate t.date with hour := t.time.hour, minute := t.time.minute, second := t.time.shownSecond }

/-- The day the numbers stand for; reading does not check that it exists. -/
def date? (n : LayoutNumbers) : Option Date := Date.of? n.year n.month n.day

def time? (n : LayoutNumbers) : Option Time := Time.ofShown? n.hour n.minute n.second

def dateTime? (n : LayoutNumbers) : Option DateTime := do
  return ⟨← n.date?, ← n.time?⟩

end LayoutNumbers

/-- A value or the fault that it does not exist. -/
def orOutOfRange {α : Type} : Option α → Except LayoutFault α
  | some a => .ok a
  | none => .error .outOfRange

namespace Date

def text (d : Date) : String := Layout.date.write (.ofDate d)

def read (s : String) : Except LayoutFault Date := do orOutOfRange (← Layout.date.read s).date?

end Date

namespace Time

def text (t : Time) : String := Layout.time.write (.ofTime t)

def read (s : String) : Except LayoutFault Time := do orOutOfRange (← Layout.time.read s).time?

end Time

namespace DateTime

def text (t : DateTime) : String := Layout.dateTime.write (.ofDateTime t)

def read (s : String) : Except LayoutFault DateTime := do orOutOfRange (← Layout.dateTime.read s).dateTime?

end DateTime

end TypedDocument
