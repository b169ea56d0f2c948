import Mathlib.Algebra.Group.Nat.Defs
import ReportQuery.Numeral

/-!
# Digits and their numbers

A run of digits is a number below the power of ten of its length, and a number
is written in no more digits than it needs, so that its numeral determines it.
Digits fit a signed word when their number does.
-/

namespace ReportQuery.Numeral

theorem ofNat_injective : Function.Injective ofNat := by
  intro m n h
  have hdigits : Nat.toDigits 10 m = Nat.toDigits 10 n := by
    simpa [ofNat] using congrArg String.toList h
  have hm := natural?_toDigits m
  rw [hdigits, natural?_toDigits] at hm
  exact (Option.some.inj hm).symm

theorem all_isDigit_padded (width n : Nat) :
    ∀ c ∈ padded width n, c.isDigit = true := by
  intro c hc
  rcases List.mem_append.mp hc with hzero | hdigit
  · rw [List.eq_of_mem_replicate hzero]
    decide
  · exact all_isDigit_toDigits n c hdigit

/-- Whether a text does not go on with a run of digits in front of it. -/
def EndsDigits (rest : List Char) : Prop :=
  ∀ c, rest.head? = some c → c.isDigit = false

theorem endsDigits_hyphen (cs : List Char) : EndsDigits ('-' :: cs) := by
  rintro c h
  obtain rfl := Option.some.inj h
  rfl

theorem takeWhile_isDigit_append {digits rest : List Char}
    (h : ∀ c ∈ digits, c.isDigit = true) (hrest : EndsDigits rest) :
    (digits ++ rest).takeWhile Char.isDigit = digits ∧
      (digits ++ rest).dropWhile Char.isDigit = rest := by
  rw [List.takeWhile_append_of_pos h, List.dropWhile_append_of_pos h]
  cases rest with
  | nil => simp
  | cons c tail => simp [hrest c rfl]

theorem length_padded {width n : Nat} (hwidth : 0 < width)
    (h : n < 10 ^ width) : (padded width n).length = width := by
  have hle := (Nat.length_toDigits_le_iff (by decide) hwidth).mpr h
  simp only [padded, List.length_append, List.length_replicate]
  omega

theorem ofDigitChars_lt {cs : List Char} (h : ∀ c ∈ cs, c.isDigit = true)
    (n : Nat) : Nat.ofDigitChars 10 cs n < (n + 1) * 10 ^ cs.length := by
  induction cs generalizing n with
  | nil => simp
  | cons c tail ih =>
      have hdigit : c.toNat - '0'.toNat ≤ 9 := by
        have hc := h c List.mem_cons_self
        simp only [Char.isDigit, Bool.and_eq_true, decide_eq_true_eq,
          UInt32.le_iff_toNat_le] at hc
        change _ ∧ c.toNat ≤ 57 at hc
        change c.toNat - 48 ≤ 9
        omega
      rw [Nat.ofDigitChars_cons, List.length_cons, Nat.pow_succ']
      refine Nat.lt_of_lt_of_le
        (ih (fun d hd => h d (List.mem_cons_of_mem c hd)) _) ?_
      rw [← Nat.mul_assoc]
      exact Nat.mul_le_mul_right _ (by omega)

theorem all_isDigit_of_natural? {cs : List Char} {n : Nat}
    (h : natural? cs = some n) : ∀ c ∈ cs, c.isDigit = true := by
  rw [natural?] at h
  split at h
  · simp at h
  · next hdigits =>
      simp only [Bool.or_eq_true, not_or, Bool.not_eq_true, Bool.not_eq_false',
        List.all_eq_true] at hdigits
      exact hdigits.2

theorem natural?_lt {cs : List Char} {n : Nat} (h : natural? cs = some n) :
    n < 10 ^ cs.length := by
  have hlt := ofDigitChars_lt (all_isDigit_of_natural? h) 0
  rw [natural?] at h
  split at h
  · simp at h
  · obtain rfl := Option.some.inj h
    simpa using hlt

theorem exists_natural? {cs : List Char} (hne : cs ≠ [])
    (h : ∀ c ∈ cs, c.isDigit = true) : ∃ n, natural? cs = some n := by
  have hall : cs.all Char.isDigit = true := List.all_eq_true.mpr h
  exact ⟨_, by rw [natural?, if_neg (by simp [hne, hall])]⟩

/-- What starts with a digit has no sign. -/
theorem integer?_of_isDigit {c : Char} {cs : List Char} (h : c.isDigit = true) :
    integer? (c :: cs) = (natural? (c :: cs)).map fun n => (n : Int) := by
  unfold integer?
  split
  · next hminus =>
      rw [(List.cons.inj hminus).1] at h
      exact absurd h (by decide)
  · next hplus =>
      rw [(List.cons.inj hplus).1] at h
      exact absurd h (by decide)
  · rfl

theorem toList_ofInt_ofNat (n : Nat) :
    (ofInt (Int.ofNat n)).toList = Nat.toDigits 10 n := by
  simp [ofInt, ofNat]

theorem toList_ofInt_negSucc (n : Nat) :
    (ofInt (Int.negSucc n)).toList = '-' :: Nat.toDigits 10 (n + 1) := by
  simp [ofInt, ofNat]

/-- A numeral is the number that it was made of, whatever its sign. -/
theorem integer?_ofInt (n : Int) : integer? (ofInt n).toList = some n := by
  cases n with
  | ofNat m =>
      obtain ⟨c, cs, hdigits⟩ :=
        List.exists_cons_of_ne_nil (Nat.toDigits_ne_nil (b := 10) (n := m))
      have hc : c.isDigit = true := all_isDigit_toDigits m c (by simp [hdigits])
      have hnumber := natural?_toDigits m
      rw [hdigits] at hnumber
      rw [toList_ofInt_ofNat, hdigits, integer?_of_isDigit hc, hnumber]
      rfl
  | negSucc m =>
      rw [toList_ofInt_negSucc, integer?, natural?_toDigits]
      rfl

theorem isSome_signedWord?_iff {c : Char} {cs : List Char}
    (h : c.isDigit = true) :
    (signedWord? (c :: cs)).isSome = true ↔
      ∃ n, natural? (c :: cs) = some n ∧ n < signedBound := by
  rw [signedWord?, integer?_of_isDigit h]
  cases hnumber : natural? (c :: cs) with
  | none => simp
  | some n =>
      simp [Option.filter]

end ReportQuery.Numeral
