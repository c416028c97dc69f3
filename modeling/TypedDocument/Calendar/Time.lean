import TypedDocument.Calendar.Date

/-!
# Times of day

A time has nanoseconds. A leap second is kept as the second before it with a full second of nanoseconds more, so
nanoseconds reach up to two seconds. A time that is put together from its parts has a leap second only behind second 59.
A time whose parts are changed one after the other can have it behind any second; a clock shows it as the next second.
-/

namespace TypedDocument

/-- Whether hour, minute, second and nanosecond are a time of day. -/
def IsTime (hour minute second nanosecond : Nat) : Prop :=
  hour < 24 ∧ minute < 60 ∧ second < 60 ∧ nanosecond < 2000000000

instance (hour minute second nanosecond : Nat) : Decidable (IsTime hour minute second nanosecond) := by
  unfold IsTime
  infer_instance

/-- A time of day. -/
structure Time where
  hour : Nat
  minute : Nat
  second : Nat
  nanosecond : Nat
  exists_time : IsTime hour minute second nanosecond
deriving DecidableEq

namespace Time

/-- The time of its parts, if they are one; a leap second has to stand behind second 59. -/
def of? (hour minute second nanosecond : Nat) : Option Time :=
  if h : IsTime hour minute second nanosecond then
    if nanosecond < 1000000000 ∨ second = 59 then some ⟨hour, minute, second, nanosecond, h⟩ else none
  else none

/-- The second as a clock shows it: sixty during a leap second behind second 59, the next second during any other. -/
def shownSecond (t : Time) : Nat := t.second + t.nanosecond / 1000000000

/-- The time a clock shows, without fractions of a second; second sixty is a leap second. -/
def ofShown? (hour minute second : Nat) : Option Time :=
  if second = 60 then of? hour minute 59 1000000000 else of? hour minute second 0

end Time

/-- A day and a time on it, without a time zone. -/
structure DateTime where
  date : Date
  time : Time
deriving DecidableEq

end TypedDocument
