import ReportQuery.Calendar.DateRange
import ReportQuery.Proofs.Calendar.Compact

/-!
# Spans of days

The days that two spans have in common are again a span. Two spans meet when
they are the same or when neither ends before the other begins; a span meets
the common part of two spans that meet exactly when it meets both, even where a
span ends before it begins. The span of a named range never does.
-/

namespace ReportQuery

open ReportQuery.Calendar

namespace Day

theorem le_iff_count_le {a b : Day} : a ≤ b ↔ a.count ≤ b.count := Iff.rfl

theorem lt_iff_count_lt {a b : Day} : a < b ↔ a.count < b.count := Iff.rfl

theorem count_later (a b : Day) : (later a b).count = max a.count b.count := by
  rw [later]
  split
  · next h =>
      rw [le_iff_count_le] at h
      omega
  · next h =>
      rw [le_iff_count_le] at h
      omega

theorem count_earlier (a b : Day) :
    (earlier a b).count = min a.count b.count := by
  rw [earlier]
  split
  · next h =>
      rw [le_iff_count_le] at h
      omega
  · next h =>
      rw [le_iff_count_le] at h
      omega

theorem later_le_iff {a b day : Day} : later a b ≤ day ↔ a ≤ day ∧ b ≤ day := by
  simp only [le_iff_count_le, count_later]
  omega

theorem le_earlier_iff {a b day : Day} :
    day ≤ earlier a b ↔ day ≤ a ∧ day ≤ b := by
  simp only [le_iff_count_le, count_earlier]
  omega

/-! ## Days before and after -/

/-- A count that cannot be told is moved to the nearest one that can. -/
theorem count_ofCount_eq_clamp (n : Int) :
    (ofCount n).count =
      max (yearStart firstYear) (min n (yearStart (lastYear + 1) - 1)) := by
  have hyears : yearStart firstYear < yearStart (lastYear + 1) := by decide
  unfold ofCount
  split
  · simp only
    omega
  · split
    · simp only
      omega
    · simp only
      omega

theorem addDays_le_addDays (day : Day) {m n : Int} (h : m ≤ n) :
    day.addDays m ≤ day.addDays n := by
  simp only [le_iff_count_le, addDays, count_ofCount_eq_clamp]
  omega

theorem addDays_zero (day : Day) : day.addDays 0 = day := by
  apply ext_count
  rw [addDays, Int.add_zero, count_ofCount day.first_le day.lt_end]

theorem addDays_le {day : Day} {n : Int} (h : n ≤ 0) : day.addDays n ≤ day := by
  have hle := day.addDays_le_addDays h
  rwa [addDays_zero] at hle

theorem one_le_civil_day (day : Day) : 1 ≤ day.civil.day := by
  obtain ⟨-, -, hone, -⟩ :=
    CivilDate.valid_iff.mp (CivilDate.ofCount_spec day.count).1
  exact hone

theorem monthFirst_le (day : Day) : day.monthFirst ≤ day := by
  have hone := day.one_le_civil_day
  exact addDays_le (by omega)

end Day

namespace DaySpan

/-- Whether a day belongs to the span. -/
def Contains (span : DaySpan) (day : Day) : Prop :=
  span.start ≤ day ∧ day ≤ span.stop

/-- Whether the span does not end before it begins. -/
def Ordered (span : DaySpan) : Prop :=
  span.start ≤ span.stop

/-- Two spans meet when they are the same or neither ends before the other
begins. -/
def Meets (a b : DaySpan) : Prop :=
  a = b ∨ (a.start ≤ b.stop ∧ b.start ≤ a.stop)

instance (a b : DaySpan) : Decidable (a.Meets b) :=
  inferInstanceAs (Decidable (a = b ∨ (a.start ≤ b.stop ∧ b.start ≤ a.stop)))

/-- The common part of two spans. -/
def common (a b : DaySpan) : DaySpan :=
  ⟨Day.later a.start b.start, Day.earlier a.stop b.stop⟩

theorem eq_iff_counts {a b : DaySpan} :
    a = b ↔ a.start.count = b.start.count ∧ a.stop.count = b.stop.count := by
  constructor
  · rintro rfl
    exact ⟨rfl, rfl⟩
  · rintro ⟨hstart, hstop⟩
    cases a
    cases b
    exact congrArg₂ DaySpan.mk (Day.ext_count hstart) (Day.ext_count hstop)

theorem contains_common_iff {a b : DaySpan} {day : Day} :
    (a.common b).Contains day ↔ a.Contains day ∧ b.Contains day := by
  simp only [Contains, common, Day.later_le_iff, Day.le_earlier_iff]
  exact and_and_and_comm

theorem common_self (a : DaySpan) : a.common a = a := by
  rw [eq_iff_counts]
  simp only [common, Day.count_later, Day.count_earlier]
  omega

theorem ordered_of_contains {a : DaySpan} {day : Day} (h : a.Contains day) :
    a.Ordered := by
  simp only [Contains, Ordered, Day.le_iff_count_le] at h ⊢
  omega

/-- Spans with a day in common meet. -/
theorem meets_of_contains {a b : DaySpan} {day : Day} (ha : a.Contains day)
    (hb : b.Contains day) : a.Meets b := by
  simp only [Contains, Day.le_iff_count_le] at ha hb
  refine Or.inr ?_
  simp only [Day.le_iff_count_le]
  omega

/-- What meets the common part of two spans that meet is what meets both. -/
theorem meets_common_iff {a b c : DaySpan} (h : a.Meets b) :
    (a.common b).Meets c ↔ a.Meets c ∧ b.Meets c := by
  simp only [Meets, eq_iff_counts, common, Day.le_iff_count_le, Day.count_later,
    Day.count_earlier] at h ⊢
  omega

end DaySpan

/-- The days of a named range are in order. -/
theorem NamedRange.ordered_resolve (range : NamedRange) (now : Day) :
    (range.resolve now).Ordered := by
  have hmonday : 0 ≤ now.daysFromMonday := Int.emod_nonneg _ (by decide)
  have hsunday : 0 ≤ now.daysFromSunday := Int.emod_nonneg _ (by decide)
  cases range with
  | today => exact Int.le_refl _
  | yesterday => exact Int.le_refl _
  | thisWeekSunToday => exact Day.addDays_le (by omega)
  | thisWeekMonToday => exact Day.addDays_le (by omega)
  | thisMonth => exact Day.monthFirst_le now
  | lastWeek => exact Day.addDays_le_addDays now (by omega)
  | last7Days => exact Day.addDays_le_addDays now (by omega)
  | last14Days => exact Day.addDays_le_addDays now (by omega)
  | last30Days => exact Day.addDays_le_addDays now (by omega)
  | lastBusinessWeek => exact Day.addDays_le_addDays now (by omega)
  | lastWeekSunSat => exact Day.addDays_le_addDays now (by omega)

/-! ## Days of four-digit years -/

namespace Calendar

theorem inFourDigits_iff_count {day : Day} :
    InFourDigits day ↔ yearStart 0 ≤ day.count ∧ day.count <
      yearStart 10000 := by
  obtain ⟨hlow, hhigh⟩ := yearOf_spec day.count
  constructor
  · rintro ⟨hfirst, hlast⟩
    exact ⟨Int.le_trans (yearStart_mono hfirst) hlow,
      Int.lt_of_lt_of_le hhigh (yearStart_mono (Int.add_le_add_right hlast 1))⟩
  · rintro ⟨hfirst, hlast⟩
    constructor
    · by_contra hbefore
      have hyear :=
        yearStart_mono (Int.add_one_le_iff.mpr (Int.not_le.mp hbefore))
      exact absurd (Int.lt_of_lt_of_le hhigh hyear) (Int.not_lt.mpr hfirst)
    · by_contra hafter
      have hyear :=
        yearStart_mono (Int.add_one_le_iff.mpr (Int.not_le.mp hafter))
      exact absurd (Int.le_trans hyear hlow) (Int.not_le.mpr hlast)

/-- The year before the first one leaves room for going back. -/
theorem inFourDigits_addDays {now : Day} (hfirst : 1 ≤ now.civil.year)
    (hlast : now.civil.year ≤ 9999) {n : Int} (hback : -365 ≤ n) (hn : n ≤ 0) :
    InFourDigits (now.addDays n) := by
  have hfour : InFourDigits now := ⟨by omega, hlast⟩
  have hnow := inFourDigits_iff_count.mp hfour
  have hone : yearStart 1 ≤ now.count :=
    Int.le_trans (yearStart_mono hfirst) (yearOf_spec now.count).1
  have hzero : yearStart 0 = yearStart 1 - 366 := by decide
  have hbounds : yearStart firstYear ≤ yearStart 0 ∧
      yearStart 10000 ≤ yearStart (lastYear + 1) := by
    decide
  rw [inFourDigits_iff_count, Day.addDays, Day.count_ofCount_eq_clamp]
  omega

end Calendar

/-- Seen from a day of the years 1 to 9999 the days of a named range have
four-digit years. -/
theorem NamedRange.inFourDigits_resolve (range : NamedRange) {now : Day}
    (hfirst : 1 ≤ now.civil.year) (hlast : now.civil.year ≤ 9999) :
    InFourDigits (range.resolve now).start ∧
      InFourDigits (range.resolve now).stop := by
  have hback : ∀ {n : Int}, -365 ≤ n → n ≤ 0 → InFourDigits (now.addDays n) :=
    fun hlow hn => inFourDigits_addDays hfirst hlast hlow hn
  have hnow : InFourDigits now := ⟨by omega, hlast⟩
  have hmonday : 0 ≤ now.daysFromMonday ∧ now.daysFromMonday < 7 :=
    ⟨Int.emod_nonneg _ (by decide), Int.emod_lt_of_pos _ (by decide)⟩
  have hsunday : 0 ≤ now.daysFromSunday ∧ now.daysFromSunday < 7 :=
    ⟨Int.emod_nonneg _ (by decide), Int.emod_lt_of_pos _ (by decide)⟩
  cases range with
  | today => exact ⟨hnow, hnow⟩
  | yesterday =>
      exact ⟨hback (by omega) (by omega), hback (by omega) (by omega)⟩
  | thisWeekSunToday => exact ⟨hback (by omega) (by omega), hnow⟩
  | thisWeekMonToday => exact ⟨hback (by omega) (by omega), hnow⟩
  | thisMonth =>
      have hone := now.one_le_civil_day
      obtain ⟨-, -, hday⟩ := hnow.bounds
      exact ⟨hback (by omega) (by omega), hnow⟩
  | lastWeek => exact ⟨hback (by omega) (by omega), hback (by omega) (by omega)⟩
  | last7Days =>
      exact ⟨hback (by omega) (by omega), hback (by omega) (by omega)⟩
  | last14Days =>
      exact ⟨hback (by omega) (by omega), hback (by omega) (by omega)⟩
  | last30Days =>
      exact ⟨hback (by omega) (by omega), hback (by omega) (by omega)⟩
  | lastBusinessWeek =>
      exact ⟨hback (by omega) (by omega), hback (by omega) (by omega)⟩
  | lastWeekSunSat =>
      exact ⟨hback (by omega) (by omega), hback (by omega) (by omega)⟩

end ReportQuery
