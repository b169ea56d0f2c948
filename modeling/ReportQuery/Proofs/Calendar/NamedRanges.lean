import Mathlib.Order.Bounds.Basic
import ReportQuery.Proofs.Calendar.Spans

/-!
# The days that a name stands for

The days of the week repeat every seven days, and the months are those of the
civil date. Seen from a day, a named range is the only span of which its name
is true: weeks are told by the weekdays at their ends, and a month by its first
day. Spans of one name do not go back in time when the day that they are seen
from goes on.
-/

namespace ReportQuery

open ReportQuery.Calendar

/-! ## Days of the week -/

/-- The days of the week. -/
inductive Weekday where
  | monday
  | tuesday
  | wednesday
  | thursday
  | friday
  | saturday
  | sunday
deriving DecidableEq, Repr

/-- The number of days since Monday. -/
def Weekday.index : Weekday → Int
  | monday => 0
  | tuesday => 1
  | wednesday => 2
  | thursday => 3
  | friday => 4
  | saturday => 5
  | sunday => 6

/-- The weekday some days after a Thursday, less than a week. -/
def Weekday.afterThursday : Nat → Weekday
  | 0 => thursday
  | 1 => friday
  | 2 => saturday
  | 3 => sunday
  | 4 => monday
  | 5 => tuesday
  | _ => wednesday

theorem Weekday.afterThursday_eq_iff {n : Nat} (h : n < 7) (weekday : Weekday) :
    afterThursday n = weekday ↔ ((n : Int) + 3) % 7 = weekday.index := by
  have hall : ∀ m : Nat, m < 7 →
      (afterThursday m = weekday ↔ ((m : Int) + 3) % 7 = weekday.index) := by
    cases weekday <;> decide
  exact hall n h

theorem Weekday.index_bounds (weekday : Weekday) :
    0 ≤ weekday.index ∧ weekday.index < 7 := by
  cases weekday <;> decide

namespace Day

instance : PartialOrder Day where
  le_refl a := Int.le_refl a.count
  le_trans a b c := @Int.le_trans a.count b.count c.count
  lt_iff_le_not_ge a b := by
    simp only [lt_iff_count_lt, le_iff_count_le]
    omega
  le_antisymm a b hab hba := ext_count (Int.le_antisymm hab hba)

variable {day now : Day} {name : Weekday}

/-- The day of the week. The first of January 1970 was a Thursday. -/
def weekday (day : Day) : Weekday :=
  .afterThursday (day.count % 7).toNat

/-- The number of days since the last day of the week of that name. -/
def daysFrom (name : Weekday) (day : Day) : Int :=
  (day.count + 3 - name.index) % 7

theorem daysFromMonday_eq (day : Day) :
    day.daysFromMonday = day.daysFrom .monday := by
  change (day.count + 3) % 7 = (day.count + 3 - 0) % 7
  omega

theorem daysFromSunday_eq (day : Day) :
    day.daysFromSunday = day.daysFrom .sunday := by
  change (day.count + 4) % 7 = (day.count + 3 - 6) % 7
  omega

theorem daysFrom_bounds (name : Weekday) (day : Day) :
    0 ≤ day.daysFrom name ∧ day.daysFrom name < 7 :=
  ⟨Int.emod_nonneg _ (by decide), Int.emod_lt_of_pos _ (by decide)⟩

theorem weekday_eq_iff : day.weekday = name ↔ day.daysFrom name = 0 := by
  have hlow : 0 ≤ day.count % 7 := Int.emod_nonneg _ (by decide)
  have hhigh : day.count % 7 < 7 := Int.emod_lt_of_pos _ (by decide)
  have hindex := name.index_bounds
  rw [weekday, Weekday.afterThursday_eq_iff (by omega), daysFrom]
  omega

theorem count_addDays {n : Int} (hn : n ≤ 0)
    (hroom : yearStart firstYear ≤ day.count + n) :
    (day.addDays n).count = day.count + n := by
  have hlast := day.lt_end
  exact count_ofCount hroom (by omega)

theorem isGreatest_weekday (name : Weekday)
    (hroom : yearStart firstYear + 6 ≤ now.count) :
    IsGreatest {day | day.weekday = name ∧ day ≤ now}
      (now.addDays (-now.daysFrom name)) := by
  have hbounds := now.daysFrom_bounds name
  have hsince : now.daysFrom name = (now.count + 3 - name.index) % 7 := rfl
  have hcount : (now.addDays (-now.daysFrom name)).count =
      now.count - now.daysFrom name :=
    count_addDays (by omega) (by omega)
  refine ⟨⟨?_, ?_⟩, ?_⟩
  · rw [weekday_eq_iff, daysFrom]
    omega
  · rw [le_iff_count_le]
    omega
  · rintro other ⟨hother, hle⟩
    rw [weekday_eq_iff, daysFrom] at hother
    rw [le_iff_count_le] at hle ⊢
    omega

/-! ## Days of the month -/

theorem civil_eq_of_count {date : CivilDate} (hvalid : date.valid = true)
    (hcount : date.count = day.count) : day.civil = date := by
  rw [civil, ← hcount, CivilDate.ofCount_count hvalid]

/-- The days of the month up to a day exist. -/
theorem valid_civil (day : Day) {d : Nat} (hone : 1 ≤ d)
    (hd : d ≤ day.civil.day) :
    CivilDate.valid { day.civil with day := d } = true ∧
      CivilDate.count { day.civil with day := d } =
      day.count + d - day.civil.day := by
  obtain ⟨hvalid, hcount⟩ := CivilDate.ofCount_spec day.count
  change day.civil.valid = true at hvalid
  change day.civil.count = day.count at hcount
  simp only [CivilDate.valid_iff, CivilDate.count] at hvalid hcount ⊢
  omega

theorem civil_inj {a b : Day} : a.civil = b.civil ↔ a = b := by
  refine ⟨fun h => ?_, congrArg civil⟩
  have hday := ofCivil?_civil a
  rw [h, ofCivil?_civil] at hday
  exact (Option.some.inj hday).symm

theorem count_monthFirst (hroom : yearStart firstYear + 30 ≤ now.count) :
    now.monthFirst.count = now.count + 1 - now.civil.day := by
  have hone := now.one_le_civil_day
  obtain ⟨-, hday⟩ := civil_le now
  rw [monthFirst, count_addDays (by omega) (by omega)]
  omega

theorem civil_monthFirst (hroom : yearStart firstYear + 30 ≤ now.count) :
    now.monthFirst.civil = { now.civil with day := 1 } := by
  obtain ⟨hvalid, hcount⟩ :=
    now.valid_civil (Nat.le_refl 1) now.one_le_civil_day
  refine civil_eq_of_count hvalid ?_
  rw [hcount, count_monthFirst hroom]
  omega

theorem isGreatest_monthFirst (hroom : yearStart firstYear + 30 ≤ now.count) :
    IsGreatest {day | day.civil.day = 1 ∧ day ≤ now} now.monthFirst := by
  refine ⟨⟨by rw [civil_monthFirst hroom], now.monthFirst_le⟩, ?_⟩
  rintro other ⟨hother, hle⟩
  have hcount := count_monthFirst hroom
  rw [le_iff_count_le] at hle ⊢
  by_contra hafter
  obtain ⟨d, hd⟩ : ∃ d : Nat, other.count = now.monthFirst.count + d :=
    ⟨(other.count - now.monthFirst.count).toNat, by omega⟩
  obtain ⟨hvalid, hcount'⟩ := now.valid_civil (d := d + 1) (by omega) (by omega)
  have hcivil : other.civil = { now.civil with day := d + 1 } :=
    civil_eq_of_count hvalid (by omega)
  have hday : other.civil.day = d + 1 := by rw [hcivil]
  omega

end Day

namespace NamedRange

/-- The `n` days that end on the day before. -/
def DaysBefore (n : Int) (now : Day) (span : DaySpan) : Prop :=
  span.stop.count = now.count - 1 ∧ span.stop.count - span.start.count + 1 = n

/-- The days from one weekday to another of a week that begins with the first
of them, the week just before that of a day. -/
structure InWeekBefore (first last : Weekday) (now : Day) (span : DaySpan) :
    Prop where
  start : span.start.weekday = first
  stop : span.stop.weekday = last
  ordered : span.start ≤ span.stop
  within : span.stop.count < span.start.count + 7
  before : span.start.count + 7 ≤ now.count
  nearest : now.count < span.start.count + 14

/-- What the name of a range says of a span, when the current day is `now`. -/
def Names (range : NamedRange) (now : Day) (span : DaySpan) : Prop :=
  match range with
  | today => span.start = now ∧ span.stop = now
  | yesterday => DaysBefore 1 now span
  | thisWeekSunToday =>
    IsGreatest {day | day.weekday = .sunday ∧ day ≤ now} span.start ∧
      span.stop = now
  | thisWeekMonToday =>
    IsGreatest {day | day.weekday = .monday ∧ day ≤ now} span.start ∧
      span.stop = now
  | thisMonth => span.start.civil = { now.civil with day := 1 } ∧
      span.stop = now
  | lastWeek => InWeekBefore .monday .sunday now span
  | last7Days => DaysBefore 7 now span
  | last14Days => DaysBefore 14 now span
  | last30Days => DaysBefore 30 now span
  | lastBusinessWeek => InWeekBefore .monday .friday now span
  | lastWeekSunSat => InWeekBefore .sunday .saturday now span

variable {now : Day} {span : DaySpan}

theorem daysBefore_iff {n : Int} (hn : 1 ≤ n)
    (hroom : yearStart firstYear + n ≤ now.count) :
    DaysBefore n now span ↔ span = ⟨now.addDays (-n), now.addDays (-1)⟩ := by
  rw [DaySpan.eq_iff_counts, Day.count_addDays (by omega) (by omega),
    Day.count_addDays (by omega) (by omega), DaysBefore]
  omega

theorem inWeekBefore_iff {first last : Weekday} :
    InWeekBefore first last now span ↔
      span.start.count = now.count - now.daysFrom first - 7 ∧
        span.stop.count = span.start.count + (last.index - first.index) %
          7 := by
  have hfirst := first.index_bounds
  have hlast := last.index_bounds
  constructor
  · rintro ⟨hstart, hstop, hordered, hwithin, hbefore, hnearest⟩
    rw [Day.weekday_eq_iff, Day.daysFrom] at hstart hstop
    rw [Day.le_iff_count_le] at hordered
    rw [Day.daysFrom]
    omega
  · rintro ⟨hstart, hstop⟩
    rw [Day.daysFrom] at hstart
    constructor
    · rw [Day.weekday_eq_iff, Day.daysFrom]
      omega
    · rw [Day.weekday_eq_iff, Day.daysFrom]
      omega
    · rw [Day.le_iff_count_le]
      omega
    · omega
    · omega
    · omega

theorem inWeekBefore_iff_eq {first last : Weekday} {m n : Int}
    (hroom : yearStart firstYear + 13 ≤ now.count)
    (hm : m = -now.daysFrom first - 7)
    (hn : n = m + (last.index - first.index) % 7) :
    InWeekBefore first last now span ↔
      span = ⟨now.addDays m, now.addDays n⟩ := by
  have hbounds := now.daysFrom_bounds first
  have hfirst := first.index_bounds
  have hlast := last.index_bounds
  rw [inWeekBefore_iff, DaySpan.eq_iff_counts,
    Day.count_addDays (by omega) (by omega),
    Day.count_addDays (by omega) (by omega)]
  omega

/-- A name is true of one span only. -/
theorem names_iff_eq_resolve (range : NamedRange)
    (hroom : yearStart firstYear + 30 ≤ now.count) :
    range.Names now span ↔ span = range.resolve now := by
  have htoday : ∀ {P : Day → Prop} {first : Day}, (∀ day, P day ↔ first = day) →
      (P span.start ∧ span.stop = now ↔ span = ⟨first, now⟩) := by
    intro P first hfirst
    obtain ⟨start, stop⟩ := span
    rw [hfirst, DaySpan.mk.injEq, eq_comm (a := first)]
  have hmonday := now.daysFromMonday_eq
  have hsunday := now.daysFromSunday_eq
  have hindex : (Weekday.sunday.index - Weekday.monday.index) % 7 = 6 ∧
      (Weekday.friday.index - Weekday.monday.index) % 7 = 4 ∧
      (Weekday.saturday.index - Weekday.sunday.index) % 7 = 6 := by decide
  cases range with
  | today => exact htoday fun day => eq_comm
  | yesterday => exact daysBefore_iff (by decide) (by omega)
  | thisWeekSunToday =>
      rw [resolve, hsunday]
      exact htoday fun day =>
        (Day.isGreatest_weekday .sunday (by omega)).isGreatest_iff_eq
  | thisWeekMonToday =>
      rw [resolve, hmonday]
      exact htoday fun day =>
        (Day.isGreatest_weekday .monday (by omega)).isGreatest_iff_eq
  | thisMonth =>
      refine htoday (P := fun day => day.civil = { now.civil with day := 1 })
        fun day => ?_
      rw [← Day.civil_monthFirst hroom, Day.civil_inj, eq_comm]
  | lastWeek => exact inWeekBefore_iff_eq (by omega) (by omega) (by omega)
  | last7Days => exact daysBefore_iff (by decide) (by omega)
  | last14Days => exact daysBefore_iff (by decide) (by omega)
  | last30Days => exact daysBefore_iff (by decide) hroom
  | lastBusinessWeek =>
      exact inWeekBefore_iff_eq (by omega) (by omega) (by omega)
  | lastWeekSunSat => exact inWeekBefore_iff_eq (by omega) (by omega) (by omega)

theorem DaysBefore.stop_lt {n : Int} (h : DaysBefore n now span) :
    span.stop < now := by
  have hstop := h.1
  rw [Day.lt_iff_count_lt]
  omega

theorem InWeekBefore.stop_lt {first last : Weekday}
    (h : InWeekBefore first last now span) : span.stop < now := by
  have hwithin := h.within
  have hbefore := h.before
  rw [Day.lt_iff_count_lt]
  omega

/-- The ranges that end with the current day. -/
def endsToday : List NamedRange :=
  [today, thisWeekSunToday, thisWeekMonToday, thisMonth]

theorem Names.stop_le {range : NamedRange} (h : range.Names now span) :
    span.stop ≤ now ∧ (span.stop = now ↔ range ∈ endsToday) := by
  have hends : span.stop = now → range ∈ endsToday →
      span.stop ≤ now ∧ (span.stop = now ↔ range ∈ endsToday) :=
        fun hstop hrange =>
    ⟨le_of_eq hstop, iff_of_true hstop hrange⟩
  have hbefore : span.stop < now → range ∉ endsToday →
      span.stop ≤ now ∧ (span.stop = now ↔ range ∈ endsToday) :=
        fun hstop hrange =>
    ⟨le_of_lt hstop, iff_of_false (ne_of_lt hstop) hrange⟩
  cases range with
  | today => exact hends h.2 (by decide)
  | yesterday => exact hbefore (DaysBefore.stop_lt h) (by decide)
  | thisWeekSunToday => exact hends h.2 (by decide)
  | thisWeekMonToday => exact hends h.2 (by decide)
  | thisMonth => exact hends h.2 (by decide)
  | lastWeek => exact hbefore (InWeekBefore.stop_lt h) (by decide)
  | last7Days => exact hbefore (DaysBefore.stop_lt h) (by decide)
  | last14Days => exact hbefore (DaysBefore.stop_lt h) (by decide)
  | last30Days => exact hbefore (DaysBefore.stop_lt h) (by decide)
  | lastBusinessWeek => exact hbefore (InWeekBefore.stop_lt h) (by decide)
  | lastWeekSunSat => exact hbefore (InWeekBefore.stop_lt h) (by decide)

theorem resolve_mono (range : NamedRange) {later : Day}
    (hroom : yearStart firstYear + 30 ≤ now.count) (hle : now ≤ later) :
    (range.resolve now).start ≤ (range.resolve later).start ∧
      (range.resolve now).stop ≤ (range.resolve later).stop := by
  have hcounts : now.count ≤ later.count := hle
  have haddDays : ∀ {m n : Int}, now.count + m ≤ later.count + n →
      now.addDays m ≤ later.addDays n := fun h => by
    simp only [Day.le_iff_count_le, Day.addDays, Day.count_ofCount_eq_clamp]
    omega
  have hback : ∀ n : Int, now.addDays n ≤ later.addDays n :=
    fun n => haddDays (by omega)
  have hmonday : now.count - now.daysFromMonday ≤
      later.count - later.daysFromMonday := by
    unfold Day.daysFromMonday
    omega
  have hsunday : now.count - now.daysFromSunday ≤
      later.count - later.daysFromSunday := by
    unfold Day.daysFromSunday
    omega
  cases range with
  | today => exact ⟨hle, hle⟩
  | yesterday => exact ⟨hback _, hback _⟩
  | thisWeekSunToday => exact ⟨haddDays (by omega), hle⟩
  | thisWeekMonToday => exact ⟨haddDays (by omega), hle⟩
  | thisMonth =>
      refine ⟨(Day.isGreatest_monthFirst hroom).mono
        (Day.isGreatest_monthFirst (hroom.trans hcounts)) ?_, hle⟩
      rintro day ⟨hfirst, hday⟩
      exact ⟨hfirst, hday.trans hle⟩
  | lastWeek => exact ⟨haddDays (by omega), haddDays (by omega)⟩
  | last7Days => exact ⟨hback _, hback _⟩
  | last14Days => exact ⟨hback _, hback _⟩
  | last30Days => exact ⟨hback _, hback _⟩
  | lastBusinessWeek => exact ⟨haddDays (by omega), haddDays (by omega)⟩
  | lastWeekSunSat => exact ⟨haddDays (by omega), haddDays (by omega)⟩

/-- From a day with thirty days before it, a named range stands for the one
span that its name is true of. The span does not end before it begins, it ends
with the current day for the four names that say so and earlier for the others,
and neither end goes back when the current day goes on. -/
theorem resolve_spec (range : NamedRange)
    (hroom : yearStart firstYear + 30 ≤ now.count) :
    (range.resolve now).start ≤ (range.resolve now).stop ∧
      (range.resolve now).stop ≤ now ∧
      ((range.resolve now).stop = now ↔ range ∈ endsToday) ∧
      (∀ span, range.Names now span ↔ span = range.resolve now) ∧
      ∀ later, now ≤ later →
        (range.resolve now).start ≤ (range.resolve later).start ∧
        (range.resolve now).stop ≤ (range.resolve later).stop := by
  have hnames : range.Names now (range.resolve now) :=
    (range.names_iff_eq_resolve hroom).mpr rfl
  obtain ⟨hstop, hends⟩ := hnames.stop_le
  exact ⟨range.ordered_resolve now, hstop, hends,
    fun span => range.names_iff_eq_resolve hroom,
    fun later hle => range.resolve_mono hroom hle⟩

/-- Seen from Tuesday, the first of March of a leap year, the last week from
Sunday to Saturday ends before the twenty-eighth of February. -/
theorem resolve_spec_firstOfMarch :
    (lastWeekSunSat.resolve (Day.ofCount 16861)).start.civil = ⟨2016, 2, 21⟩ ∧
      (lastWeekSunSat.resolve (Day.ofCount 16861)).stop.civil = ⟨2016, 2, 27⟩ ∧
      lastWeekSunSat.Names (Day.ofCount 16861)
        (lastWeekSunSat.resolve (Day.ofCount 16861)) ∧
      (lastWeekSunSat.resolve (Day.ofCount 16861)).stop ≠
        Day.ofCount 16861 := by
  have hroom : yearStart firstYear + 30 ≤ (Day.ofCount 16861).count := by decide
  obtain ⟨-, -, hends, hnames, -⟩ := resolve_spec lastWeekSunSat hroom
  exact ⟨by decide +kernel, by decide +kernel, (hnames _).mpr rfl,
    mt hends.mp (by decide)⟩

end NamedRange

end ReportQuery
