import Mathlib.Data.List.Induction
import ReportQuery.Proofs.Calendar.Compact

/-!
# Days in eight digits

Digits of one length that denote the same number are the same, so that digits
are what their number is padded to. Eight digits are therefore read as a day
exactly when they are the year, the month and the day of the month that the day
is written with.
-/

namespace ReportQuery

namespace Numeral

theorem bounds_of_isDigit {c : Char} (h : c.isDigit = true) :
    '0'.toNat ≤ c.toNat ∧ c.toNat ≤ '9'.toNat := by
  simpa [Char.isDigit, UInt32.le_iff_toNat_le] using h

/-- Digits of one length are told apart by their numbers. -/
theorem eq_of_ofDigitChars_eq {cs ds : List Char}
    (hcs : ∀ c ∈ cs, c.isDigit = true) (hds : ∀ d ∈ ds, d.isDigit = true)
    (hlength : cs.length = ds.length)
    (h : Nat.ofDigitChars 10 cs 0 = Nat.ofDigitChars 10 ds 0) : cs = ds := by
  induction cs using List.reverseRecOn generalizing ds with
  | nil => exact (List.length_eq_zero_iff.mp hlength.symm).symm
  | append_singleton cs c ih =>
      cases ds using List.reverseRecOn with
      | nil => simp at hlength
      | append_singleton ds d =>
          have hc := bounds_of_isDigit (hcs c (by simp))
          have hd := bounds_of_isDigit (hds d (by simp))
          have hnine : '9'.toNat = '0'.toNat + 9 := rfl
          simp only [Nat.ofDigitChars_append, Nat.ofDigitChars_cons,
            Nat.ofDigitChars_nil] at h
          have hlast : c = d := Char.toNat_inj.mp (by omega)
          have hrest : cs = ds := by
            refine ih (fun e he => hcs e (by simp [he]))
              (fun e he => hds e (by simp [he])) ?_ (by omega)
            simpa using hlength
          rw [hlast, hrest]

/-- Digits are what their number is padded to. -/
theorem padded_of_natural? {cs : List Char} {n : Nat}
    (h : natural? cs = some n) : padded cs.length n = cs := by
  have hdigits := all_isDigit_of_natural? h
  have hne : cs ≠ [] := by
    rintro rfl
    simp [natural?] at h
  have hlength := length_padded (List.length_pos_iff.mpr hne) (natural?_lt h)
  have hvalue : ∀ {ds : List Char}, natural? ds = some n →
      Nat.ofDigitChars 10 ds 0 = n := by
    intro ds hds
    rw [natural?] at hds
    split at hds
    · simp at hds
    · exact Option.some.inj hds
  refine eq_of_ofDigitChars_eq (all_isDigit_padded _ n) hdigits hlength ?_
  rw [hvalue (natural?_padded _ n), hvalue h]

end Numeral

namespace Calendar

theorem takeNumber_of_digits {cs : List Char} (h : ∀ c ∈ cs, c.isDigit = true)
    (width : Nat) :
    takeNumber (some width) cs =
      (Numeral.natural? (cs.take width)).map fun n => (n, cs.drop width) := by
  have htake : cs.takeWhile Char.isDigit = cs :=
    List.takeWhile_eq_self_iff.mpr h
  have hdrop : cs.drop (min width cs.length) = cs.drop width := by
    rcases Nat.le_total width cs.length with hle | hle
    · rw [Nat.min_eq_left hle]
    · rw [Nat.min_eq_right hle, List.drop_length, List.drop_eq_nil_of_le hle]
  simp only [takeNumber, htake, List.length_take, hdrop]

/-- The numbers that are read from eight digits are those of the first four, of
the next two and of the last two. -/
theorem numbers_of_read? {s : String}
    (hdigits : ∀ c ∈ s.toList, c.isDigit = true) (hlength : s.toList.length = 8)
    {r : Reading} (h : Layout.compact.read? s = some r) :
    ∃ year month day, Numeral.natural? (s.toList.take 4) = some year ∧
      Numeral.natural? ((s.toList.drop 4).take 2) = some month ∧
      Numeral.natural? (s.toList.drop 6) = some day ∧
      r = { year := year, month := month, day := day } := by
  have hrest : ∀ n, ∀ c ∈ s.toList.drop n, c.isDigit = true := fun n c hc =>
    hdigits c (List.mem_of_mem_drop hc)
  obtain ⟨c, cs, hchars⟩ : ∃ c cs, s.toList = c :: cs :=
    List.exists_cons_of_length_pos (by omega)
  have hyear : takeYear s.toList =
      (Numeral.natural? (s.toList.take 4)).map fun n : Nat =>
        ((n : Int), s.toList.drop 4) := by
    have hnumber := takeNumber_of_digits hdigits 4
    rw [hchars] at hnumber ⊢
    rw [takeYear_of_isDigit (hdigits c (by simp [hchars])), hnumber,
      Option.map_map]
    rfl
  have hpair : ∀ n, takePair (s.toList.drop n) =
      (Numeral.natural? ((s.toList.drop n).take 2)).map fun m =>
        (m, s.toList.drop (n + 2)) := by
    intro n
    rw [takePair, trimStart_of_digits (hrest n), takeNumber_of_digits (hrest n),
      List.drop_drop]
  have hlast : (s.toList.drop 6).take 2 = s.toList.drop 6 :=
    List.take_of_length_le (by rw [List.length_drop]; omega)
  have hnone : s.toList.drop 8 = [] := List.drop_eq_nil_of_le (by omega)
  have hread : Layout.compact.read? s =
      (Numeral.natural? (s.toList.take 4)).bind fun year =>
      (Numeral.natural? ((s.toList.drop 4).take 2)).bind fun month =>
        (Numeral.natural? (s.toList.drop 6)).map fun day =>
          { year := year, month := month, day := day } := by
    simp only [Layout.read?, Layout.compact, Layout.readFrom, LayoutPart.read,
      trimStart_of_digits hdigits, hyear, hpair, hlast, hnone,
      Option.map_eq_bind, Option.bind_assoc, Option.bind_some,
      Function.comp_def]
  rw [hread] at h
  obtain ⟨year, hyearDigits, h⟩ := Option.bind_eq_some_iff.mp h
  obtain ⟨month, hmonthDigits, h⟩ := Option.bind_eq_some_iff.mp h
  obtain ⟨day, hdayDigits, rfl⟩ := Option.map_eq_some_iff.mp h
  exact ⟨year, month, day, hyearDigits, hmonthDigits, hdayDigits, rfl⟩

/-- Eight digits are read as a day exactly when the day is written with them. -/
theorem compactDay?_eq_some_iff {s : String}
    (hdigits : ∀ c ∈ s.toList, c.isDigit = true) {day : Day} :
    compactDay? s = some day ↔
      InFourDigits day ∧ s = Layout.compact.writeDay day := by
  constructor
  · intro h
    have hbytes : s.utf8ByteSize = 8 := by
      by_contra hbytes
      simp [compactDay?, hbytes] at h
    have hlength : s.toList.length = 8 := by
      rw [← utf8Len_of_digits hdigits, ← hbytes, ← String.utf8ByteSize_ofList,
        String.ofList_toList]
    rw [compactDay?, if_pos hbytes] at h
    obtain ⟨r, hread, hday⟩ := Option.bind_eq_some_iff.mp h
    obtain ⟨year, month, dayOfMonth, hyear, hmonth, hdayOfMonth, rfl⟩ :=
      numbers_of_read? hdigits hlength hread
    have hcivil := civil_of_ofCivil? hday
    obtain ⟨c, cs, hchars⟩ : ∃ c cs, s.toList = c :: cs :=
      List.exists_cons_of_length_pos (by omega)
    have hfour : InFourDigits day :=
      inFourDigits_of_compactDay? hchars (hdigits c (by simp [hchars]))
        (by rw [compactDay?, if_pos hbytes]; exact h)
    refine ⟨hfour, String.toList_injective ?_⟩
    have hpadded : ∀ (width : Nat) {cs : List Char} {n : Nat},
        Numeral.natural? cs = some n →
        cs.length = width → Numeral.padded width n = cs := by
      rintro _ cs n hn rfl
      exact Numeral.padded_of_natural? hn
    have hyearText := hpadded 4 hyear (by rw [List.length_take]; omega)
    have hmonthText := hpadded 2 hmonth
      (by rw [List.length_take, List.length_drop]; omega)
    have hdayText := hpadded 2 hdayOfMonth (by rw [List.length_drop]; omega)
    rw [hfour.toList_writeDay, hcivil, Int.toNat_natCast, hyearText,
      hmonthText, hdayText]
    have hsix : s.toList.drop 6 = (s.toList.drop 4).drop 2 := by
      rw [List.drop_drop]
    rw [hsix, List.take_append_drop, List.take_append_drop]
  · rintro ⟨hday, rfl⟩
    exact hday.compactDay?_writeDay

end Calendar

end ReportQuery
