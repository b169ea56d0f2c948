import ReportQuery.Proofs.Calendar.Compact

/-!
# Days with hyphens

A written day is read with hyphens as this day, whatever its year: a year of
four digits ends at the hyphen, and one with a sign has as many digits as there
are before it.
-/

namespace ReportQuery.Calendar

open Numeral (EndsDigits endsDigits_hyphen)

theorem endsDigits_nil : EndsDigits [] := by
  rintro c h
  simp at h

/-- A run of digits in front of something else, within the width that is
read. -/
theorem takeNumber_padded_append (places n : Nat) {width : Option Nat}
    (hwidth : ∀ w ∈ width, (Numeral.padded places n).length ≤ w)
    {rest : List Char} (hrest : EndsDigits rest) :
    takeNumber width (Numeral.padded places n ++ rest) = some (n, rest) := by
  obtain ⟨htake, -⟩ :=
    Numeral.takeWhile_isDigit_append (Numeral.all_isDigit_padded places n) hrest
  cases width with
  | none => simp [takeNumber, htake, Numeral.natural?_padded]
  | some w => simp [takeNumber, htake, List.take_of_length_le (hwidth w rfl),
      Numeral.natural?_padded]

theorem exists_padded (places n : Nat) :
    ∃ c cs, Numeral.padded places n = c :: cs ∧ c.isDigit = true := by
  cases hpadded : Numeral.padded places n with
  | nil =>
      have hnumber := Numeral.natural?_padded places n
      rw [hpadded] at hnumber
      simp [Numeral.natural?] at hnumber
  | cons c cs =>
      exact ⟨c, cs, rfl, Numeral.all_isDigit_padded places n c
        (by simp [hpadded])⟩

theorem takePair_padded_append {n : Nat} (h : n < 10 ^ 2) {rest : List Char}
    (hrest : EndsDigits rest) :
    takePair (Numeral.padded 2 n ++ rest) = some (n, rest) := by
  have hlength : ∀ w ∈ some 2, (Numeral.padded 2 n).length ≤ w := by
    simp [Numeral.length_padded (by decide) h]
  have hnumber := takeNumber_padded_append 2 n hlength hrest
  obtain ⟨c, cs, hpadded, hc⟩ := exists_padded 2 n
  rw [hpadded, List.cons_append] at hnumber ⊢
  rw [takePair, Text.trimStart_of_not_blank (not_isBlank_of_isDigit hc),
    hnumber]

/-- A written year begins with a digit or with its sign. -/
theorem trimStart_yearText (year : Int) (rest : List Char) :
    Text.trimStart (yearText year ++ rest) = yearText year ++ rest := by
  rw [yearText]
  split
  · obtain ⟨c, cs, hpadded, hc⟩ := exists_padded 4 year.toNat
    rw [hpadded, List.cons_append,
      Text.trimStart_of_not_blank (not_isBlank_of_isDigit hc)]
  · split
    · exact Text.trimStart_of_not_blank rfl
    · exact Text.trimStart_of_not_blank rfl

theorem takeYear_yearText (year : Int) {rest : List Char}
    (hrest : EndsDigits rest) :
    takeYear (yearText year ++ rest) = some (year, rest) := by
  have hnone : ∀ w ∈ (none : Option Nat),
      (Numeral.padded 4 year.natAbs).length ≤ w := by simp
  have hsigned := takeNumber_padded_append 4 year.natAbs hnone hrest
  rw [yearText]
  split
  · next hfour =>
      have hlt : year.toNat < 10 ^ 4 := by omega
      have hlength : ∀ w ∈ some 4, (Numeral.padded 4 year.toNat).length ≤
          w := by
        simp [Numeral.length_padded (by decide) hlt]
      have hnumber := takeNumber_padded_append 4 year.toNat hlength hrest
      obtain ⟨c, cs, hpadded, hc⟩ := exists_padded 4 year.toNat
      rw [hpadded, List.cons_append] at hnumber ⊢
      rw [takeYear_of_isDigit hc, hnumber]
      simp [Int.toNat_of_nonneg hfour.1]
  · next hfour =>
      split
      · next hnegative =>
          have hyear : -(year.natAbs : Int) = year := by omega
          rw [List.cons_append, takeYear, hsigned, Option.map_some]
          exact congrArg (fun n => some (n, rest)) hyear
      · next hnegative =>
          have hyear : (year.natAbs : Int) = year := by omega
          rw [List.cons_append, takeYear, hsigned, Option.map_some]
          exact congrArg (fun n => some (n, rest)) hyear

theorem toList_writeDay_date (day : Day) :
    (Layout.date.writeDay day).toList = yearText day.civil.year ++
      '-' :: (Numeral.padded 2 day.civil.month ++
        '-' :: Numeral.padded 2 day.civil.day) := by
  simp [Layout.date, Layout.writeDay, Layout.write, LayoutPart.write,
    Moment.midnight]

/-- A day written with hyphens is read as this day. -/
theorem readDay?_writeDay (day : Day) :
    Layout.spacedDate.readDay? (Layout.date.writeDay day) = some day := by
  obtain ⟨hmonth, hday⟩ := civil_lt_hundred day
  have hhyphen (cs : List Char) : Text.trimStart ('-' :: cs) = '-' :: cs :=
    Text.trimStart_of_not_blank rfl
  have hlast := takePair_padded_append hday endsDigits_nil
  rw [List.append_nil] at hlast
  have hread : Layout.spacedDate.read? (Layout.date.writeDay day) =
      some { year := day.civil.year, month := day.civil.month,
             day := day.civil.day } := by
    rw [Layout.read?, toList_writeDay_date]
    simp [Layout.spacedDate, Layout.readFrom, LayoutPart.read,
      trimStart_yearText, takeYear_yearText _ (endsDigits_hyphen _), hhyphen,
      takePair_padded_append hmonth (endsDigits_hyphen _), hlast]
  rw [Layout.readDay?, hread]
  exact ofCivil?_civil day

end ReportQuery.Calendar
