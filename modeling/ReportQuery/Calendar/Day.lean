/-!
# Days

A day of the proleptic Gregorian calendar is counted from 1970-01-01, so that
ranges of days are intervals of integers. The civil form of a day, its year,
month and day of the month, is computed from the count: a year begins at
`yearStart`, and a day belongs to the last year that has begun.
-/

namespace ReportQuery.Calendar

/-- Days from 1970-01-01 to the first of January of a year. -/
def yearStart (year : Int) : Int :=
  365 * (year - 1) + (year - 1) / 4 - (year - 1) / 100 + (year - 1) /
    400 - 719162

/-- Whether February has a twenty-ninth day. -/
def isLeap (year : Int) : Bool :=
  year % 4 == 0 && (year % 100 != 0 || year % 400 == 0)

/-- The year that a count of days falls into. -/
def yearOf (count : Int) : Int :=
  let guess := (count + 719162) * 400 / 146097 + 1
  if count < yearStart guess then guess - 1
  else if yearStart (guess + 1) ≤ count then guess + 1
  else guess

/-- Days from the first of January to the first of a month. -/
def monthStart (leap : Bool) (month : Nat) : Nat :=
  let extra := if leap then 1 else 0
  match month with
  | 2 => 31
  | 3 => 59 + extra
  | 4 => 90 + extra
  | 5 => 120 + extra
  | 6 => 151 + extra
  | 7 => 181 + extra
  | 8 => 212 + extra
  | 9 => 243 + extra
  | 10 => 273 + extra
  | 11 => 304 + extra
  | 12 => 334 + extra
  | 13 => 365 + extra
  | _ => 0

/-- The number of days of a month. -/
def monthLength (leap : Bool) (month : Nat) : Nat :=
  monthStart leap (month + 1) - monthStart leap month

/-- The month that a day of the year falls into, the first of January being day
zero. -/
def monthOf (leap : Bool) (dayOfYear : Nat) : Nat :=
  [1, 2, 3, 4, 5, 6, 7, 8, 9, 10, 11, 12].countP fun month =>
    monthStart leap month ≤ dayOfYear

/-- A year, a month from 1 to 12 and a day of the month. -/
structure CivilDate where
  year : Int
  month : Nat
  day : Nat
deriving DecidableEq, Repr

namespace CivilDate

/-- Whether the month and the day of the month exist. -/
def valid (date : CivilDate) : Bool :=
  1 ≤ date.month && date.month ≤ 12 && 1 ≤ date.day &&
    date.day ≤ monthLength (isLeap date.year) date.month

/-- Days from 1970-01-01 to the date. -/
def count (date : CivilDate) : Int :=
  yearStart date.year + monthStart (isLeap date.year) date.month + date.day - 1

/-- The date with a given count. -/
def ofCount (count : Int) : CivilDate :=
  let year := yearOf count
  let dayOfYear := (count - yearStart year).toNat
  let month := monthOf (isLeap year) dayOfYear
  ⟨year, month, dayOfYear + 1 - monthStart (isLeap year) month⟩

end CivilDate

/-- The first year whose days can be told. -/
def firstYear : Int := -262143

/-- The last year whose days can be told. -/
def lastYear : Int := 262142

end Calendar

open Calendar

/-- A day between the first of January of the first year and the end of the
last one. -/
structure Day where
  /-- Days since 1970-01-01, negative before it. -/
  count : Int
  first_le : yearStart firstYear ≤ count
  lt_end : count < yearStart (lastYear + 1)
deriving DecidableEq

namespace Day

/-- The day with a count, or the nearest day that can be told. -/
def ofCount (count : Int) : Day :=
  if h : count < yearStart firstYear then
    ⟨yearStart firstYear, by omega, by decide⟩
  else if h' : count < yearStart (lastYear + 1) then ⟨count, by omega, h'⟩
  else ⟨yearStart (lastYear + 1) - 1, by decide, by omega⟩

/-- The day with a count, when it can be told. -/
def ofCount? (count : Int) : Option Day :=
  if h : yearStart firstYear ≤ count ∧ count < yearStart (lastYear + 1) then
    some ⟨count, h.1, h.2⟩
  else none

/-- The day with a civil date, when there is one. -/
def ofCivil? (date : CivilDate) : Option Day :=
  if date.valid then ofCount? date.count else none

/-- The civil date of a day. -/
def civil (day : Day) : CivilDate :=
  CivilDate.ofCount day.count

/-- The day `n` days later, or the nearest day that can be told. -/
def addDays (day : Day) (n : Int) : Day :=
  ofCount (day.count + n)

/-- Days since the last Monday. -/
def daysFromMonday (day : Day) : Int :=
  (day.count + 3) % 7

/-- Days since the last Sunday. -/
def daysFromSunday (day : Day) : Int :=
  (day.count + 4) % 7

/-- The first day of the month. -/
def monthFirst (day : Day) : Day :=
  day.addDays (1 - day.civil.day)

instance : LE Day := ⟨fun a b => a.count ≤ b.count⟩

instance : LT Day := ⟨fun a b => a.count < b.count⟩

instance (a b : Day) :
    Decidable (a ≤ b) := inferInstanceAs (Decidable (a.count ≤ b.count))

instance (a b : Day) :
    Decidable (a < b) := inferInstanceAs (Decidable (a.count < b.count))

/-- The later of two days. -/
def later (a b : Day) : Day :=
  if a ≤ b then b else a

/-- The earlier of two days. -/
def earlier (a b : Day) : Day :=
  if a ≤ b then a else b

/-- The first of January 1970. -/
def epoch : Day := ⟨0, by decide, by decide⟩

instance : Inhabited Day := ⟨epoch⟩

instance : Repr Day := ⟨fun day n => reprPrec day.count n⟩

theorem ext_count {a b : Day} (h : a.count = b.count) : a = b := by
  cases a
  cases b
  simpa using h

theorem ofCount?_count (day : Day) : ofCount? day.count = some day := by
  simp [ofCount?, day.first_le, day.lt_end]

theorem count_ofCount {n : Int} (hfirst : yearStart firstYear ≤ n)
    (hlast : n < yearStart (lastYear + 1)) : (ofCount n).count = n := by
  have : ¬ n < yearStart firstYear := by omega
  simp [ofCount, this, hlast]

end Day

end ReportQuery
