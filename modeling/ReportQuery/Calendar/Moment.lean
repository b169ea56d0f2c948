import ReportQuery.Calendar.Day

/-!
# Moments

A moment is a second of a day. A leap second is kept beside the second before
it, which it counts with, and is written with the number 60.
-/

namespace ReportQuery

/-- A second of a day, without a time zone. -/
structure Moment where
  day : Day
  /-- Seconds since midnight. -/
  second : Nat
  /-- Whether this is the leap second after `second`. -/
  leap : Bool
deriving DecidableEq, Repr

namespace Moment

/-- Seconds in a day. -/
def secondsPerDay : Nat := 86400

/-- The first second of a day. -/
def midnight (day : Day) : Moment :=
  ⟨day, 0, false⟩

/-- Seconds since the start of 1970; a leap second counts with the one before
it. -/
def timestamp (m : Moment) : Int :=
  m.day.count * secondsPerDay + m.second

/-- The moment with a timestamp, when its day can be told. -/
def ofTimestamp? (seconds : Int) : Option Moment :=
  (Day.ofCount? (seconds / secondsPerDay)).map fun day =>
    ⟨day, (seconds % secondsPerDay).toNat, false⟩

/-- The moment of an hour, a minute and a second up to 60. -/
def ofClock? (day : Day) (hour minute second : Nat) : Option Moment :=
  if hour ≤ 23 ∧ minute ≤ 59 ∧ second ≤ 60 then
    let leap := second == 60
    some ⟨day, hour * 3600 + minute * 60 + (if leap then 59 else second), leap⟩
  else none

/-- The hour of the day. -/
def hour (m : Moment) : Nat := m.second / 3600

/-- The minute of the hour. -/
def minute (m : Moment) : Nat := m.second / 60 % 60

/-- The second of the minute, 60 for a leap second. -/
def secondOfMinute (m : Moment) : Nat :=
  m.second % 60 + if m.leap then 1 else 0

/-- Position on the time line; a leap second comes after the one it counts
with. -/
def rank (m : Moment) : Int :=
  2 * m.timestamp + if m.leap then 1 else 0

/-- The order on the time line. -/
def compare (a b : Moment) : Ordering :=
  Ord.compare a.rank b.rank

end Moment

end ReportQuery
