import ReportQuery.Calendar.Day
import ReportQuery.Text.Characters

/-!
# Named ranges of days

A named range stands for an interval of days relative to a given day. Both ends
belong to the range. Weeks begin on Monday unless the name says Sunday.
-/

namespace ReportQuery

/-- A range of days named relative to the current day. -/
inductive NamedRange where
  | today
  | yesterday
  | thisWeekSunToday
  | thisWeekMonToday
  | thisMonth
  | lastWeek
  | last7Days
  | last14Days
  | last30Days
  | lastBusinessWeek
  | lastWeekSunSat
deriving DecidableEq, Repr

/-- An interval of days, both ends included. -/
structure DaySpan where
  start : Day
  stop : Day
deriving DecidableEq, Repr

namespace NamedRange

/-- Every named range. -/
def all : List NamedRange :=
  [today, yesterday, thisWeekSunToday, thisWeekMonToday, thisMonth,
    lastWeek, last7Days, last14Days, last30Days, lastBusinessWeek,
    lastWeekSunSat]

/-- The word that names the range. -/
def word : NamedRange → String
  | today => "TODAY"
  | yesterday => "YESTERDAY"
  | thisWeekSunToday => "THIS_WEEK_SUN_TODAY"
  | thisWeekMonToday => "THIS_WEEK_MON_TODAY"
  | thisMonth => "THIS_MONTH"
  | lastWeek => "LAST_WEEK"
  | last7Days => "LAST_7_DAYS"
  | last14Days => "LAST_14_DAYS"
  | last30Days => "LAST_30_DAYS"
  | lastBusinessWeek => "LAST_BUSINESS_WEEK"
  | lastWeekSunSat => "LAST_WEEK_SUN_SAT"

/-- The range with a name, in any letter case. -/
def ofWord? (s : String) : Option NamedRange :=
  all.find? fun range => Text.sameLetters range.word s

/-- The range with exactly this name. -/
def ofExactWord? (s : String) : Option NamedRange :=
  all.find? fun range => range.word == s

/-- The days of the range when the current day is `now`. -/
def resolve (range : NamedRange) (now : Day) : DaySpan :=
  let monday := -now.daysFromMonday
  let sunday := -now.daysFromSunday
  match range with
  | today => ⟨now, now⟩
  | yesterday => ⟨now.addDays (-1), now.addDays (-1)⟩
  | thisWeekSunToday => ⟨now.addDays sunday, now⟩
  | thisWeekMonToday => ⟨now.addDays monday, now⟩
  | thisMonth => ⟨now.monthFirst, now⟩
  | lastWeek => ⟨now.addDays (monday - 7), now.addDays (monday - 1)⟩
  | last7Days => ⟨now.addDays (-7), now.addDays (-1)⟩
  | last14Days => ⟨now.addDays (-14), now.addDays (-1)⟩
  | last30Days => ⟨now.addDays (-30), now.addDays (-1)⟩
  | lastBusinessWeek => ⟨now.addDays (monday - 7), now.addDays (monday - 3)⟩
  | lastWeekSunSat => ⟨now.addDays (sunday - 7), now.addDays (sunday - 1)⟩

end NamedRange

end ReportQuery
