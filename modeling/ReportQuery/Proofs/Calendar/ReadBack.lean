import ReportQuery.Proofs.Calendar.Hyphens
import ReportQuery.Proofs.Calendar.Timestamps

/-!
# Written moments are read back

A layout keeps its numbers apart when no number stands right behind another
one, no mark behind a number is a digit, and what stands behind a space is not
blank. A moment that such a layout writes is read by it with the numbers that
the layout has. When the moment was read by the same layout, it has no other
numbers, and so it is read as itself, leap seconds and years of any size
included.
-/

namespace ReportQuery

open Calendar

namespace Moment

variable {m : Moment}

/-- A moment read from a clock has the numbers of the clock. -/
theorem clock_of_ofClock? {day : Day} {hour minute second : Nat}
    (h : ofClock? day hour minute second = some m) :
    m.day = day ∧ m.hour = hour ∧ m.minute = minute ∧
      m.secondOfMinute = second := by
  rw [ofClock?] at h
  split at h
  · next hclock =>
      obtain ⟨hhour, hminute, hsecond⟩ := hclock
      obtain rfl := Option.some.inj h
      simp only [Moment.hour, Moment.minute, secondOfMinute, true_and]
      by_cases hleap : second = 60
      · simp only [hleap, beq_self_eq_true, if_true]
        omega
      · simp only [beq_eq_false_iff_ne.mpr hleap, Bool.false_eq_true, if_false]
        omega
  · simp at h

theorem OnClock.lt_hundred (h : m.OnClock) :
    m.hour < 10 ^ 2 ∧ m.minute < 10 ^ 2 ∧ m.secondOfMinute < 10 ^ 2 := by
  have hsecond : m.second < 86400 := h
  have hlast : m.secondOfMinute ≤ m.second % 60 + 1 := by
    rw [secondOfMinute]
    split <;> omega
  rw [Moment.hour, Moment.minute]
  omega

end Moment

namespace Calendar

variable {m : Moment} {r : Reading}

/-- The reading that has all numbers of a moment. -/
def Reading.ofMoment (m : Moment) : Reading where
  year := m.day.civil.year
  month := m.day.civil.month
  day := m.day.civil.day
  hour := m.hour
  minute := m.minute
  second := m.secondOfMinute

theorem Reading.eq_ofMoment_of_toMoment? (h : r.toMoment? = some m) :
    r = ofMoment m := by
  obtain ⟨day, hday, hclock⟩ := Option.bind_eq_some_iff.mp h
  obtain ⟨rfl, hhour, hminute, hsecond⟩ := Moment.clock_of_ofClock? hclock
  have hcivil := civil_of_ofCivil? hday
  simp [ofMoment, hcivil, hhour, hminute, hsecond]

theorem Reading.ext_number {r' : Reading}
    (h : ∀ field, r.number field = r'.number field) : r = r' := by
  have hyear := h .year
  have hmonth := h .month
  have hday := h .day
  have hhour := h .hour
  have hminute := h .minute
  have hsecond := h .second
  simp only [Reading.number, Int.natCast_inj]
    at hyear hmonth hday hhour hminute hsecond
  cases r
  cases r'
  simp_all

/-! ## Parts -/

namespace LayoutPart

/-- A reading with the number that a part takes from a moment. -/
def store (m : Moment) (part : LayoutPart) (r : Reading) : Reading :=
  match part with
  | .year => { r with year := m.day.civil.year }
  | .month => { r with month := m.day.civil.month }
  | .day => { r with day := m.day.civil.day }
  | .hour => { r with hour := m.hour }
  | .minute => { r with minute := m.minute }
  | .second => { r with second := m.secondOfMinute }
  | .mark _ | .space => r

theorem number_store (part field : LayoutPart) :
    (part.store m r).number field =
      if part = field then (Reading.ofMoment m).number field
      else r.number field := by
  cases part <;> cases field <;> simp [store, Reading.number, Reading.ofMoment]

/-- Whether the part stands for a number of the moment. -/
def isNumber : LayoutPart → Bool
  | .year | .month | .day | .hour | .minute | .second => true
  | .mark _ | .space => false

/-- Whether the text of a part ends where the text of the next one begins. -/
def endsBefore (part next : LayoutPart) : Bool :=
  match next with
  | .mark c => !(part.isNumber && c.isDigit) &&
      !(part == .space && Text.isBlank c)
  | .space => part != .space
  | .year | .month | .day | .hour | .minute | .second => !part.isNumber

/-- Whether the text of a part ends in front of other text. -/
structure EndsAt (part : LayoutPart) (rest : List Char) : Prop where
  digits : part.isNumber = true → Numeral.EndsDigits rest
  blanks : part = .space → Text.trimStart rest = rest

theorem endsAt_nil (part : LayoutPart) : part.EndsAt [] :=
  ⟨fun _ => endsDigits_nil, fun _ => rfl⟩

/-- A written number begins with a digit or with a sign. -/
theorem trimStart_write {part : LayoutPart} (h : part.isNumber = true)
    (rest : List Char) :
    Text.trimStart (part.write m ++ rest) = part.write m ++ rest := by
  have hpadded : ∀ n, Text.trimStart (Numeral.padded 2 n ++ rest) =
      Numeral.padded 2 n ++ rest := by
    intro n
    obtain ⟨c, cs, hdigits, hc⟩ := exists_padded 2 n
    rw [hdigits, List.cons_append,
      Text.trimStart_of_not_blank (not_isBlank_of_isDigit hc)]
  cases part with
  | year => exact trimStart_yearText _ rest
  | mark c => simp [isNumber] at h
  | space => simp [isNumber] at h
  | _ => exact hpadded _

theorem endsAt_write {part next : LayoutPart} (h : part.endsBefore next = true)
    (rest : List Char) : part.EndsAt (next.write m ++ rest) := by
  cases next with
  | mark c =>
      simp only [endsBefore, Bool.and_eq_true, Bool.not_eq_true',
        Bool.and_eq_false_iff] at h
      obtain ⟨hdigit, hblank⟩ := h
      refine ⟨fun hnumber d hd => ?_, fun hspace => ?_⟩
      · obtain rfl := Option.some.inj hd
        exact hdigit.resolve_left (by simp [hnumber])
      · exact Text.trimStart_of_not_blank
          (hblank.resolve_left (by simp [hspace]))
  | space =>
      refine ⟨fun _ d hd => ?_, fun hspace => ?_⟩
      · obtain rfl := Option.some.inj hd
        rfl
      · simp [endsBefore, hspace] at h
  | _ =>
      refine ⟨fun hnumber => ?_, fun _ => trimStart_write rfl rest⟩
      simp [endsBefore, hnumber] at h

theorem read_write (hclock : m.OnClock) {part : LayoutPart} {rest : List Char}
    (h : part.EndsAt rest) :
    part.read r (part.write m ++ rest) = some (part.store m r, rest) := by
  obtain ⟨hmonth, hday⟩ := civil_lt_hundred m.day
  obtain ⟨hhour, hminute, hsecond⟩ := hclock.lt_hundred
  have hpair : ∀ {n : Nat}, n < 10 ^ 2 → part.isNumber = true →
      takePair (Numeral.padded 2 n ++ rest) = some (n, rest) :=
        fun hn hnumber =>
    takePair_padded_append hn (h.digits hnumber)
  cases part with
  | year =>
      change (takeYear (Text.trimStart (yearText _ ++ rest))).map _ = _
      rw [trimStart_yearText, takeYear_yearText _ (h.digits rfl)]
      rfl
  | month => simp [read, write, store, hpair hmonth rfl]
  | day => simp [read, write, store, hpair hday rfl]
  | hour => simp [read, write, store, hpair hhour rfl]
  | minute => simp [read, write, store, hpair hminute rfl]
  | second => simp [read, write, store, hpair hsecond rfl]
  | mark c => simp [read, write, store]
  | space =>
      have htrim : Text.trimStart (' ' :: rest) = Text.trimStart rest := by
        simp [Text.trimStart, Text.isBlank]
      simp [read, write, store, htrim, h.blanks rfl]

end LayoutPart

/-! ## Layouts -/

namespace Layout

variable {layout : Layout}

/-- The numbers of a layout are kept apart. -/
def Separated (layout : Layout) : Prop :=
  layout.IsChain fun part next => part.endsBefore next = true

instance (layout : Layout) : Decidable layout.Separated :=
  inferInstanceAs
    (Decidable (layout.IsChain fun part next => part.endsBefore next = true))

/-- A reading with the numbers that the parts of a layout take from a moment. -/
def store (m : Moment) (layout : Layout) (r : Reading) : Reading :=
  layout.foldl (fun r part => part.store m r) r

theorem number_store (layout : Layout) (field : LayoutPart) :
    (layout.store m r).number field =
      if field ∈ layout then (Reading.ofMoment m).number field
      else r.number field := by
  induction layout generalizing r with
  | nil => rfl
  | cons part layout ih =>
      rw [store, List.foldl_cons]
      change (Layout.store m layout (part.store m r)).number field = _
      rw [ih, LayoutPart.number_store]
      by_cases hfield : part = field
      · simp [hfield]
      · simp [hfield, Ne.symm hfield]

/-- A layout that keeps its numbers apart reads them from what it writes. -/
theorem readFrom_write (hclock : m.OnClock) (hlayout : layout.Separated) :
    layout.readFrom r (layout.flatMap fun part => part.write m) =
      some (layout.store m r) := by
  induction layout generalizing r with
  | nil => rfl
  | cons part layout ih =>
      have hends : part.EndsAt (layout.flatMap fun part => part.write m) := by
        cases layout with
        | nil => exact part.endsAt_nil
        | cons next layout =>
            rw [List.flatMap_cons]
            exact LayoutPart.endsAt_write (List.isChain_cons_cons.mp hlayout).1
              _
      rw [List.flatMap_cons, readFrom, LayoutPart.read_write hclock hends,
        Option.bind_some]
      exact ih hlayout.of_cons

/-- A moment that was read by a layout is read as itself from what the layout
writes. -/
theorem readMoment?_write {s : String} (hlayout : layout.Separated)
    (h : layout.readMoment? s = some m) :
    layout.readMoment? (layout.write m) = some m := by
  obtain ⟨r, hread, hmoment⟩ := Option.bind_eq_some_iff.mp h
  have hclock : m.OnClock := onClock_of_readMoment? h
  have hwritten : layout.read? (layout.write m) = some (layout.store m {}) := by
    rw [read?, write, String.toList_ofList]
    exact readFrom_write hclock hlayout
  have hsame : layout.store m {} = r := by
    apply Reading.ext_number
    intro field
    rw [number_store]
    split
    · rw [Reading.eq_ofMoment_of_toMoment? hmoment]
    · next hfield => exact (number_of_readFrom hfield hread).symm
  rw [readMoment?, hwritten, hsame]
  exact hmoment

end Layout

end Calendar

end ReportQuery
