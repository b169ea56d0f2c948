import Mathlib.Data.List.TakeWhile
import Mathlib.Data.String.Basic
import ReportQuery.Calendar.Layout
import ReportQuery.Proofs.Numeral

/-!
# Days in eight digits

The count of a day determines its civil date, and the date the count. A day of
the years 0 to 9999 is written in eight digits, four of the year and two of the
month and the day, and these digits are read as the day again. Only such days
are read from digits.
-/

namespace ReportQuery.Calendar

/-! ## The civil date of a day -/

theorem yearStart_of_guess {count guess : Int}
    (h : (count + 719162) * 400 / 146097 + 1 = guess) :
    yearStart (guess - 1) ≤ count ∧ count < yearStart (guess + 2) := by
  unfold yearStart
  omega

/-- A count falls into the year that it is told to. -/
theorem yearOf_spec (count : Int) :
    yearStart (yearOf count) ≤ count ∧
      count < yearStart (yearOf count + 1) := by
  rw [yearOf]
  generalize hguess : (count + 719162) * 400 / 146097 + 1 = guess
  obtain ⟨hlow, hhigh⟩ := yearStart_of_guess hguess
  split
  · next hbefore => exact ⟨hlow, by simpa using hbefore⟩
  · next hbefore =>
      split
      · next hafter => exact ⟨hafter, by rwa [Int.add_assoc]⟩
      · next hafter => exact ⟨Int.not_lt.mp hbefore, Int.not_le.mp hafter⟩

theorem yearStart_mono {a b : Int} (h : a ≤ b) : yearStart a ≤ yearStart b := by
  unfold yearStart
  omega

/-- A count falls into one year only. -/
theorem yearOf_eq {count year : Int} (hlow : yearStart year ≤ count)
    (hhigh : count < yearStart (year + 1)) : yearOf count = year := by
  obtain ⟨hlow', hhigh'⟩ := yearOf_spec count
  rcases Int.lt_trichotomy (yearOf count) year with hlt | heq | hgt
  · have := yearStart_mono (Int.add_one_le_iff.mpr hlt)
    omega
  · exact heq
  · have := yearStart_mono (Int.add_one_le_iff.mpr hgt)
    omega

theorem yearStart_succ (year : Int) :
    yearStart (year + 1) = yearStart year + monthStart (isLeap year) 13 := by
  by_cases hfour : year % 4 = 0
  · by_cases hhundred : year % 100 = 0
    · by_cases hera : year % 400 = 0
      · simp [yearStart, isLeap, monthStart, hfour, hhundred, hera]
        omega
      · simp [yearStart, isLeap, monthStart, hfour, hhundred, hera]
        omega
    · simp [yearStart, isLeap, monthStart, hfour, hhundred]
      omega
  · simp [yearStart, isLeap, monthStart, hfour]
    omega

/-- A day of the year falls into the month that it is told to. -/
theorem monthOf_spec (leap : Bool) {d : Nat} (h : d < monthStart leap 13) :
    1 ≤ monthOf leap d ∧ monthOf leap d ≤ 12 ∧
      monthStart leap (monthOf leap d) ≤ d ∧
      d < monthStart leap (monthOf leap d + 1) := by
  have hall : ∀ leap, ∀ d < monthStart leap 13,
      1 ≤ monthOf leap d ∧ monthOf leap d ≤ 12 ∧
      monthStart leap (monthOf leap d) ≤ d ∧
        d < monthStart leap (monthOf leap d + 1) := by
    decide +kernel
  exact hall leap d h

theorem monthStart_succ_le (leap : Bool) {month : Nat} (h : month ≤ 12) :
    monthStart leap month ≤ monthStart leap (month + 1) ∧
      monthStart leap (month + 1) ≤ monthStart leap 13 := by
  have hall : ∀ leap, ∀ month ≤ 12,
      monthStart leap month ≤ monthStart leap (month + 1) ∧
      monthStart leap (month + 1) ≤ monthStart leap 13 := by
    decide +kernel
  exact hall leap month h

theorem monthStart_le (leap : Bool) {month other : Nat} (h : month < other)
    (hother : other ≤ 12) :
    monthStart leap (month + 1) ≤ monthStart leap other := by
  have hall : ∀ leap, ∀ other ≤ 12, ∀ month < other,
      monthStart leap (month + 1) ≤ monthStart leap other := by
    decide +kernel
  exact hall leap other hother month h

/-- A day of the year falls into one month only. -/
theorem monthOf_eq {leap : Bool} {month d : Nat} (hmonth : month ≤ 12)
    (hlow : monthStart leap month ≤ d)
    (hhigh : d < monthStart leap (month + 1)) : monthOf leap d = month := by
  have hyear := monthStart_succ_le leap hmonth
  obtain ⟨-, htwelve, hlow', hhigh'⟩ := monthOf_spec leap (d := d) (by omega)
  rcases Nat.lt_trichotomy (monthOf leap d) month with hlt | heq | hgt
  · have := monthStart_le leap hlt hmonth
    omega
  · exact heq
  · have := monthStart_le leap hgt htwelve
    omega

namespace CivilDate

theorem valid_iff {date : CivilDate} :
    date.valid = true ↔ 1 ≤ date.month ∧ date.month ≤ 12 ∧ 1 ≤ date.day ∧
      date.day ≤ monthLength (isLeap date.year) date.month := by
  simp only [valid, Bool.and_eq_true, decide_eq_true_eq, and_assoc]

/-- The date of a count exists and has this count. -/
theorem ofCount_spec (n : Int) :
    (ofCount n).valid = true ∧ (ofCount n).count = n := by
  obtain ⟨hlow, hhigh⟩ := yearOf_spec n
  rw [yearStart_succ] at hhigh
  obtain ⟨d, hd⟩ : ∃ d : Nat, n - yearStart (yearOf n) = d :=
    ⟨(n - yearStart (yearOf n)).toNat, by omega⟩
  obtain ⟨hone, htwelve, hmonth, hnext⟩ :=
    monthOf_spec (isLeap (yearOf n)) (d := d) (by omega)
  have hnat : (n - yearStart (yearOf n)).toNat = d := by omega
  constructor
  · simp only [valid_iff, ofCount, monthLength, hnat]
    omega
  · simp only [ofCount, count, hnat]
    omega

/-- A date that exists falls into its year. -/
theorem yearOf_count {date : CivilDate} (h : date.valid = true) :
    yearOf date.count = date.year := by
  obtain ⟨hone, htwelve, hday, hlast⟩ := valid_iff.mp h
  rw [monthLength] at hlast
  have hmonths := monthStart_succ_le (isLeap date.year) htwelve
  apply yearOf_eq
  · unfold count
    omega
  · rw [yearStart_succ]
    unfold count
    omega

/-- A date that exists is the one of its count. -/
theorem ofCount_count {date : CivilDate} (h : date.valid = true) :
    ofCount date.count = date := by
  have hyear := yearOf_count h
  obtain ⟨hone, htwelve, hday, hlast⟩ := valid_iff.mp h
  rw [monthLength] at hlast
  have hmonths := monthStart_succ_le (isLeap date.year) htwelve
  have hdays : (date.count - yearStart date.year).toNat =
      monthStart (isLeap date.year) date.month + date.day - 1 := by
    unfold count
    omega
  have hmonth : monthOf (isLeap date.year)
      (monthStart (isLeap date.year) date.month + date.day - 1) = date.month :=
    monthOf_eq htwelve (by omega) (by omega)
  rw [ofCount, hyear, hdays, hmonth]
  congr 1
  omega

end CivilDate

theorem ofCivil?_civil (day : Day) : Day.ofCivil? day.civil = some day := by
  obtain ⟨hvalid, hcount⟩ := CivilDate.ofCount_spec day.count
  rw [Day.ofCivil?, Day.civil, if_pos hvalid, hcount, Day.ofCount?_count]

theorem civil_of_ofCivil? {date : CivilDate} {day : Day}
    (h : Day.ofCivil? date = some day) : day.civil = date := by
  rw [Day.ofCivil?] at h
  split at h
  · next hvalid =>
      rw [Day.ofCount?] at h
      split at h
      · obtain rfl := Option.some.inj h
        exact CivilDate.ofCount_count hvalid
      · simp at h
  · simp at h

/-! ## Eight digits -/

/-- A number of some width in front of other digits. -/
theorem takeNumber_padded {width n : Nat} (hwidth : 0 < width)
    (h : n < 10 ^ width) {rest : List Char}
    (hrest : ∀ c ∈ rest, c.isDigit = true) :
    takeNumber (some width) (Numeral.padded width n ++ rest) =
      some (n, rest) := by
  have hlength := Numeral.length_padded hwidth h
  have hall : ∀ c ∈ Numeral.padded width n ++ rest, c.isDigit = true :=
    List.forall_mem_append.mpr ⟨Numeral.all_isDigit_padded width n, hrest⟩
  have htake : (Numeral.padded width n ++ rest).takeWhile Char.isDigit =
      Numeral.padded width n ++ rest := List.takeWhile_eq_self_iff.mpr hall
  have hdigits : (Numeral.padded width n ++ rest).take width =
      Numeral.padded width n :=
    List.take_left' hlength
  simp only [takeNumber, htake, hdigits, Numeral.natural?_padded,
    Option.map_some, hlength]
  rw [List.drop_left' hlength]

theorem not_isBlank_of_isDigit {c : Char} (h : c.isDigit = true) :
    Text.isBlank c = false := by
  simp only [Char.isDigit, Bool.and_eq_true, decide_eq_true_eq,
    UInt32.le_iff_toNat_le, ge_iff_le] at h
  change 48 ≤ c.toNat ∧ c.toNat ≤ 57 at h
  simp [Text.isBlank]
  omega

theorem trimStart_of_digits {cs : List Char} (h : ∀ c ∈ cs, c.isDigit = true) :
    Text.trimStart cs = cs := by
  cases cs with
  | nil => rfl
  | cons c tail =>
      exact Text.trimStart_of_not_blank
        (not_isBlank_of_isDigit (h c List.mem_cons_self))

/-- A year that starts with a digit has four digits at most. -/
theorem takeYear_of_isDigit {c : Char} {cs : List Char} (h : c.isDigit = true) :
    takeYear (c :: cs) =
      (takeNumber (some 4) (c :: cs)).map fun (n, rest) =>
        ((n : Int), rest) := by
  unfold takeYear
  split
  · next hminus =>
      rw [(List.cons.inj hminus).1] at h
      exact absurd h (by decide)
  · next hplus =>
      rw [(List.cons.inj hplus).1] at h
      exact absurd h (by decide)
  · rfl

/-- The year of a day that can be written in eight digits. -/
def InFourDigits (day : Day) : Prop :=
  0 ≤ day.civil.year ∧ day.civil.year ≤ 9999

variable {day : Day}

theorem InFourDigits.toList_writeDay (h : InFourDigits day) :
    (Layout.compact.writeDay day).toList =
      Numeral.padded 4 day.civil.year.toNat ++
      (Numeral.padded 2 day.civil.month ++ Numeral.padded 2 day.civil.day) := by
  have hyear : 0 ≤ day.civil.year ∧ day.civil.year ≤ 9999 := h
  simp [Layout.compact, Layout.writeDay, Layout.write, LayoutPart.write,
    Moment.midnight, yearText, hyear]

theorem civil_le (day : Day) : day.civil.month ≤ 12 ∧ day.civil.day ≤ 31 := by
  obtain ⟨-, htwelve, -, hlast⟩ :=
    CivilDate.valid_iff.mp (CivilDate.ofCount_spec day.count).1
  have hlength : ∀ leap, ∀ month ≤ 12, monthLength leap month ≤ 31 := by
    decide +kernel
  exact ⟨htwelve, hlast.trans (hlength _ _ htwelve)⟩

/-- The month and the day of the month fit two digits. -/
theorem civil_lt_hundred (day : Day) :
    day.civil.month < 10 ^ 2 ∧ day.civil.day < 10 ^ 2 := by
  obtain ⟨hmonth, hday⟩ := civil_le day
  constructor <;> omega

/-- The numbers of a civil date fit the digits that they are written in. -/
theorem InFourDigits.bounds (h : InFourDigits day) :
    day.civil.year.toNat < 10 ^ 4 ∧ day.civil.month < 10 ^ 2 ∧
      day.civil.day < 10 ^ 2 := by
  obtain ⟨hlow, hhigh⟩ := h
  exact ⟨by omega, civil_lt_hundred day⟩

theorem InFourDigits.all_isDigit_writeDay (h : InFourDigits day) :
    ∀ c ∈ (Layout.compact.writeDay day).toList, c.isDigit = true := by
  rw [h.toList_writeDay]
  exact List.forall_mem_append.mpr ⟨Numeral.all_isDigit_padded 4 _,
    List.forall_mem_append.mpr ⟨Numeral.all_isDigit_padded 2 _,
      Numeral.all_isDigit_padded 2 _⟩⟩

theorem InFourDigits.length_writeDay (h : InFourDigits day) :
    (Layout.compact.writeDay day).toList.length = 8 := by
  obtain ⟨hyear, hmonth, hday⟩ := h.bounds
  rw [h.toList_writeDay, List.length_append, List.length_append,
    Numeral.length_padded (by decide) hyear,
    Numeral.length_padded (by decide) hmonth,
    Numeral.length_padded (by decide) hday]

theorem utf8Size_of_isDigit {c : Char} (h : c.isDigit = true) :
    c.utf8Size = 1 := by
  rw [Char.utf8Size_eq_one_iff]
  simp only [Char.isDigit, Bool.and_eq_true, decide_eq_true_eq] at h
  exact UInt32.le_trans h.2 (by decide)

theorem utf8Len_of_digits {cs : List Char} (h : ∀ c ∈ cs, c.isDigit = true) :
    String.utf8Len cs = cs.length := by
  induction cs with
  | nil => rfl
  | cons c tail ih =>
      rw [String.utf8Len_cons, ih fun d hd => h d (List.mem_cons_of_mem c hd),
        utf8Size_of_isDigit (h c List.mem_cons_self), List.length_cons]

/-- The digits of a day are read as its numbers. -/
theorem InFourDigits.read_writeDay (h : InFourDigits day) :
    Layout.compact.read? (Layout.compact.writeDay day) =
      some { year := day.civil.year, month := day.civil.month,
             day := day.civil.day } := by
  obtain ⟨hyear, hmonth, hday⟩ := h.bounds
  have hdigits := h.all_isDigit_writeDay
  rw [Layout.read?]
  rw [h.toList_writeDay] at hdigits ⊢
  have hrest := (List.forall_mem_append.mp hdigits).2
  have hlast := (List.forall_mem_append.mp hrest).2
  have hyearRead : takeYear (Numeral.padded 4 day.civil.year.toNat ++
      (Numeral.padded 2 day.civil.month ++ Numeral.padded 2 day.civil.day)) =
        some (day.civil.year, Numeral.padded 2 day.civil.month ++
          Numeral.padded 2 day.civil.day) := by
    have htake := takeNumber_padded (by decide) hyear hrest
    have hfour := Numeral.length_padded (by decide) hyear
    cases hpadded : Numeral.padded 4 day.civil.year.toNat with
    | nil => simp [hpadded] at hfour
    | cons c tail =>
        have hc : c.isDigit = true := hdigits c (by simp [hpadded])
        rw [hpadded] at htake
        rw [List.cons_append] at htake ⊢
        rw [takeYear_of_isDigit hc, htake]
        simp [Int.toNat_of_nonneg h.1]
  have hdayRead : takeNumber (some 2) (Numeral.padded 2 day.civil.day) =
      some (day.civil.day, []) := by
    have htake := takeNumber_padded (by decide) hday
      (List.forall_mem_nil (Char.isDigit · = true))
    rwa [List.append_nil] at htake
  simp only [Layout.compact, Layout.readFrom, LayoutPart.read, takePair,
    trimStart_of_digits hdigits, hyearRead, Option.map_some, Option.bind_some,
    trimStart_of_digits hrest, takeNumber_padded (by decide) hmonth hlast,
    trimStart_of_digits hlast, hdayRead]

/-- A day in eight digits is read as this day. -/
theorem InFourDigits.compactDay?_writeDay (h : InFourDigits day) :
    compactDay? (Layout.compact.writeDay day) = some day := by
  rw [compactDay?, if_pos, Layout.readDay?, h.read_writeDay]
  · exact ofCivil?_civil day
  · rw [← String.ofList_toList (s := Layout.compact.writeDay day),
      String.utf8ByteSize_ofList, utf8Len_of_digits h.all_isDigit_writeDay,
      h.length_writeDay]

theorem year_of_takeYear {c : Char} {cs rest : List Char} (h : c.isDigit = true)
    {year : Int} (htake : takeYear (c :: cs) = some (year, rest)) :
    0 ≤ year ∧ year ≤ 9999 := by
  rw [takeYear_of_isDigit h] at htake
  obtain ⟨⟨n, rest'⟩, hnumber, hyear⟩ := Option.map_eq_some_iff.mp htake
  obtain ⟨m, hm, hn⟩ := Option.map_eq_some_iff.mp hnumber
  obtain ⟨rfl, -⟩ := Prod.mk.inj hn
  obtain ⟨rfl, -⟩ := Prod.mk.inj hyear
  have hlt : m < 10 ^ (((c :: cs).takeWhile Char.isDigit).take 4).length :=
    Numeral.natural?_lt hm
  have hpow := Nat.pow_le_pow_right (show 0 < 10 by decide)
    (List.length_take_le 4 ((c :: cs).takeWhile Char.isDigit))
  omega

/-- The number of a reading that a part of a layout sets. -/
def Reading.number (r : Reading) : LayoutPart → Int
  | .year => r.year
  | .month => r.month
  | .day => r.day
  | .hour => r.hour
  | .minute => r.minute
  | .second => r.second
  | .mark _ | .space => 0

theorem number_of_read {part field : LayoutPart} (hpart : part ≠ field)
    {r r' : Reading} {cs rest : List Char}
    (h : part.read r cs = some (r', rest)) :
    r'.number field = r.number field := by
  cases part with
  | mark c =>
      cases cs with
      | nil => simp [LayoutPart.read] at h
      | cons d tail =>
          simp only [LayoutPart.read, Option.ite_none_right_eq_some,
            Option.some.injEq, Prod.mk.injEq] at h
          rw [h.2.1]
  | space =>
      obtain ⟨rfl, -⟩ := Prod.mk.inj (Option.some.inj h)
      rfl
  | _ =>
      obtain ⟨taken, -, heq⟩ := Option.map_eq_some_iff.mp h
      obtain ⟨rfl, -⟩ := Prod.mk.inj heq
      cases field <;> first | rfl | exact absurd rfl hpart

/-- Reading sets no number that its layout does not have. -/
theorem number_of_readFrom {layout : Layout} {field : LayoutPart}
    (hlayout : field ∉ layout) {r r' : Reading} {cs : List Char}
    (h : layout.readFrom r cs = some r') :
    r'.number field = r.number field := by
  induction layout generalizing r cs with
  | nil =>
      cases cs with
      | nil => rw [Option.some.inj h]
      | cons c tail => simp [Layout.readFrom] at h
  | cons part layout ih =>
      obtain ⟨⟨middle, rest⟩, hpart, hrest⟩ := Option.bind_eq_some_iff.mp h
      rw [ih (fun hmem => hlayout (List.mem_cons_of_mem part hmem)) hrest]
      exact number_of_read (fun heq => hlayout (by simp [heq])) hpart

/-- Only a day that can be written in eight digits is read from them. -/
theorem inFourDigits_of_compactDay? {s : String} {c : Char} {cs : List Char}
    (hchars : s.toList = c :: cs) (hdigit : c.isDigit = true)
    (h : compactDay? s = some day) : InFourDigits day := by
  rw [compactDay?] at h
  split at h
  · obtain ⟨r, hread, hday⟩ := Option.bind_eq_some_iff.mp h
    rw [Layout.read?, hchars] at hread
    obtain ⟨⟨first, rest⟩, hfirst, hrest⟩ := Option.bind_eq_some_iff.mp hread
    obtain ⟨⟨year, rest'⟩, hyear, heq⟩ := Option.map_eq_some_iff.mp hfirst
    rw [Text.trimStart_of_not_blank (not_isBlank_of_isDigit hdigit)] at hyear
    obtain ⟨rfl, rfl⟩ := Prod.mk.inj heq
    have hsame : r.year = year :=
      @number_of_readFrom _ .year (by decide) _ _ _ hrest
    rw [InFourDigits, civil_of_ofCivil? hday, hsame]
    exact year_of_takeYear hdigit hyear
  · simp at h

end ReportQuery.Calendar
