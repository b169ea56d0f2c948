import ReportQuery.Proofs.Calendar.Compact

/-!
# Timestamps

The timestamp of a moment that was read keeps its day and its second. A leap
second has the timestamp of the second before it, and only a layout with a part
for the second can give one.
-/

namespace ReportQuery

open Calendar

namespace Moment

variable {a b m : Moment}

/-- A moment of the clock: its second is one of its day. -/
def OnClock (m : Moment) : Prop :=
  m.second < secondsPerDay

theorem onClock_of_ofClock? {day : Day} {hour minute second : Nat}
    (h : ofClock? day hour minute second = some m) : m.OnClock := by
  rw [ofClock?] at h
  split at h
  · obtain rfl := Option.some.inj h
    change hour * 3600 + minute *
      60 + (if (second == 60) = true then 59 else second) < 86400
    split
    · omega
    · next hleap =>
        rw [beq_iff_eq] at hleap
        omega
  · simp at h

theorem leap_of_ofClock? {day : Day} {hour minute second : Nat}
    (h : ofClock? day hour minute second = some m) :
    m.leap = (second == 60) := by
  rw [ofClock?] at h
  split at h
  · obtain rfl := Option.some.inj h
    rfl
  · simp at h

/-- A timestamp gives back the day and the second. -/
theorem OnClock.ofTimestamp?_timestamp (h : m.OnClock) :
    ofTimestamp? m.timestamp = some { m with leap := false } := by
  have hsecond : (m.second : Int) < secondsPerDay := Int.ofNat_lt.mpr h
  have hday : m.timestamp / secondsPerDay = m.day.count := by
    rw [timestamp, Int.add_comm, Int.add_mul_ediv_right _ _ (by decide),
      Int.ediv_eq_zero_of_lt (Int.natCast_nonneg _) hsecond, Int.zero_add]
  have hrest : m.timestamp % secondsPerDay = m.second := by
    rw [timestamp, Int.add_comm, Int.add_mul_emod_self_right,
      Int.emod_eq_of_lt (Int.natCast_nonneg _) hsecond]
  rw [ofTimestamp?, hday, hrest, Day.ofCount?_count]
  rfl

theorem OnClock.natAbs_timestamp_lt (h : m.OnClock) :
    m.timestamp.natAbs < 2 ^ 53 := by
  have hfirst : -100000000 ≤ m.day.count :=
    (show -100000000 ≤ yearStart firstYear by decide).trans m.day.first_le
  have hlast : m.day.count < 100000000 :=
    m.day.lt_end.trans_le (show yearStart (lastYear + 1) ≤ 100000000 by decide)
  have hsecond : m.second < 86400 := h
  change (m.day.count * 86400 + m.second).natAbs < 2 ^ 53
  omega

theorem timestamp_le_of_compare_ne_gt (h : a.compare b ≠ .gt) :
    a.timestamp ≤ b.timestamp := by
  have hrank : a.rank ≤ b.rank := by
    rw [compare, Ne, Int.compare_eq_gt] at h
    omega
  rw [rank, rank] at hrank
  split at hrank <;> split at hrank <;> omega

end Moment

namespace Calendar

variable {layout : Layout} {s : String} {m : Moment}

theorem onClock_of_readMoment? (h : layout.readMoment? s = some m) :
    m.OnClock := by
  obtain ⟨r, -, hmoment⟩ := Option.bind_eq_some_iff.mp h
  obtain ⟨day, -, hclock⟩ := Option.bind_eq_some_iff.mp hmoment
  exact Moment.onClock_of_ofClock? hclock

/-- A layout without the second gives no leap second. -/
theorem leap_of_readMoment? (hlayout : .second ∉ layout)
    (h : layout.readMoment? s = some m) : m.leap = false := by
  obtain ⟨r, hread, hmoment⟩ := Option.bind_eq_some_iff.mp h
  obtain ⟨day, -, hclock⟩ := Option.bind_eq_some_iff.mp hmoment
  have hsecond : (r.second : Int) = 0 := number_of_readFrom hlayout hread
  rw [Moment.leap_of_ofClock? hclock, Int.natCast_eq_zero.mp hsecond]
  rfl

end Calendar

end ReportQuery
