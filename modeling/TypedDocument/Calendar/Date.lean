/-!
# Calendar days

Days of the Gregorian calendar, extended to all years before and after its introduction. A `Date` always is a day
that exists.
-/

namespace TypedDocument

/-- Every fourth year is a leap year, except for the hundreds that are no multiple of four hundred. -/
def isLeapYear (year : Int) : Bool := year % 4 = 0 && (year % 100 ≠ 0 || year % 400 = 0)

/-- The number of days in a month; months outside the year have none. -/
def daysInMonth (year : Int) (month : Nat) : Nat :=
  if month = 2 then if isLeapYear year then 29 else 28
  else if month = 4 ∨ month = 6 ∨ month = 9 ∨ month = 11 then 30
  else if 1 ≤ month ∧ month ≤ 12 then 31
  else 0

/-- The first year that can be represented. -/
def firstYear : Int := -262143

/-- The last year that can be represented. -/
def lastYear : Int := 262142

/-- Whether a day exists in a year that can be represented. A month outside the year has no days. -/
def IsDay (year : Int) (month day : Nat) : Prop :=
  firstYear ≤ year ∧ year ≤ lastYear ∧ 1 ≤ day ∧ day ≤ daysInMonth year month

instance (year : Int) (month day : Nat) : Decidable (IsDay year month day) := by
  unfold IsDay
  infer_instance

/-- A calendar day. -/
structure Date where
  year : Int
  month : Nat
  day : Nat
  exists_day : IsDay year month day
deriving DecidableEq

namespace Date

/-- The day of a year, month and day of the month, if it exists. -/
def of? (year : Int) (month day : Nat) : Option Date :=
  if h : IsDay year month day then some ⟨year, month, day, h⟩ else none

end Date

end TypedDocument
