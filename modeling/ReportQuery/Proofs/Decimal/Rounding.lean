import Mathlib
import ReportQuery.Proofs.Decimal.Comparison

/-!
# Rounding to doubles

The arithmetic of doubles computes with more bits than a mantissa holds. It
shifts the lower ones out, rounds, and halves once more a mantissa that
rounding has grown by a bit: a division by a power of two with a rounded
quotient. So the double nearest to a positive number is known from one rounded
division. A larger number does not get a smaller double, and the double is the
number itself when a mantissa holds it, apart from a power of two.
-/

namespace ReportQuery.Decimal

open Float.Model Float.Model.UnpackedFloat

/-! ## Rounded quotients -/

section Quotients

variable {num num' den den' : Nat}

theorem roundDiv_mul_right (num den : Nat) {c : Nat} (hc : 0 < c) :
    roundDiv (num * c) (den * c) = roundDiv num den := by
  unfold roundDiv
  rw [Nat.mul_div_mul_right num den hc, Nat.mul_mod_mul_right]
  simp only [← Nat.mul_assoc, Nat.mul_lt_mul_right hc,
    Nat.mul_right_cancel_iff hc]

/-- A rounded quotient depends on the ratio alone. -/
theorem roundDiv_congr (hden : 0 < den) (hden' : 0 < den')
    (h : num * den' = num' * den) : roundDiv num den = roundDiv num' den' := by
  rw [← roundDiv_mul_right num den hden', h, Nat.mul_comm den den',
    roundDiv_mul_right _ _ hden]

theorem roundDiv_mul_self (n : Nat) (hden : 0 < den) :
    roundDiv (n * den) den = n := by
  simp [roundDiv, Nat.mul_div_cancel n hden, hden.ne]

theorem roundDiv_mono (den : Nat) (h : num ≤ num') :
    roundDiv num den ≤ roundDiv num' den := by
  have hquotient : num / den ≤ num' / den := Nat.div_le_div_right h
  have hsplit := Nat.div_add_mod num den
  have hsplit' := Nat.div_add_mod num' den
  rcases hquotient.lt_or_eq with hlt | heq
  · have hle : roundDiv num den ≤ num / den + 1 := by
      simp only [roundDiv]
      split <;> omega
    have hge : num' / den ≤ roundDiv num' den := by
      simp only [roundDiv]
      split <;> omega
    omega
  · have hrest : num % den ≤ num' % den := by
      rw [heq] at hsplit
      omega
    simp only [roundDiv, heq]
    split
    · split <;> omega
    · split <;> omega

end Quotients

/-! ## Shifts -/

theorem shiftRight_succ (n d : Nat) :
    ExtendedMantissa.ofMantissaAndAccuracy n .exact >>> (d + 1) =
      ⟨n / 2 ^ (d + 1), n / 2 ^ d % 2 != 0, n % 2 ^ d != 0⟩ := by
  change Nat.repeat ExtendedMantissa.shiftRightOne (d + 1) ⟨n, false, false⟩ = _
  induction d with
  | zero => simp [Nat.repeat, ExtendedMantissa.shiftRightOne, Nat.mod_one]
  | succ d ih =>
      rw [Nat.repeat, ih, ExtendedMantissa.shiftRightOne]
      have hrest : n % 2 ^ (d + 1) = n % 2 ^ d + 2 ^ d * (n / 2 ^ d % 2) := by
        rw [Nat.pow_succ, Nat.mod_mul]
      have hsticky : (n / 2 ^ d % 2 != 0 || n % 2 ^ d != 0) =
          (n % 2 ^ (d + 1) != 0) := by
        rw [hrest, Bool.eq_iff_iff]
        simp [Nat.add_eq_zero_iff, or_comm, imp_iff_not_or]
      simp only [hsticky, Nat.div_div_eq_div_mul, ← Nat.pow_succ]

/-- Shifting bits out and rounding is dividing and rounding. -/
theorem roundedMantissa_shiftRight (n d : Nat) :
    (ExtendedMantissa.ofMantissaAndAccuracy n .exact >>> d).roundedMantissa =
      roundDiv n (2 ^ d) := by
  cases d with
  | zero =>
      have hone := roundDiv_mul_self n Nat.one_pos
      rw [Nat.mul_one] at hone
      exact hone.symm
  | succ d =>
      have hrest : n % 2 ^ (d + 1) = n % 2 ^ d + 2 ^ d * (n / 2 ^ d % 2) := by
        rw [Nat.pow_succ, Nat.mod_mul]
      have hlow : n % 2 ^ d < 2 ^ d := Nat.mod_lt _ (Nat.two_pow_pos d)
      have hpow : 2 ^ (d + 1) = 2 * 2 ^ d := Nat.pow_succ'
      rw [shiftRight_succ, roundDiv, hrest, hpow]
      generalize n % 2 ^ d = low at hlow
      generalize n / (2 * 2 ^ d) = quotient
      have hbit := Nat.mod_two_eq_zero_or_one (n / 2 ^ d)
      generalize n / 2 ^ d % 2 = bit at hbit
      generalize 2 ^ d = half at hlow
      rcases hbit with rfl | rfl
      · rw [Nat.mul_zero, Nat.add_zero, if_neg (by omega)]
        cases low <;> rfl
      · rw [Nat.mul_one]
        cases low with
        | zero =>
            change quotient + quotient % 2 = _
            split <;> omega
        | succ low =>
            rw [if_pos (by omega)]
            rfl

/-! ## Normal doubles -/

/-- A double with a full mantissa, without its sign. -/
@[ext]
structure Normal where
  mantissa : Nat
  exponent : Int
  le_mantissa : 2 ^ 52 ≤ mantissa
  mantissa_lt : mantissa < 2 ^ 53
  le_exponent : -1074 ≤ exponent
  exponent_le : exponent ≤ 971

namespace Normal

theorem mantissa_pos (x : Normal) : 0 < x.mantissa :=
  Nat.lt_of_lt_of_le (by decide) x.le_mantissa

/-- The number with a sign. -/
def unpacked (x : Normal) (sign : Sign) : UnpackedFloat :=
  .finite sign x.mantissa x.exponent x.mantissa_pos

/-- The double with a sign. -/
def toFloat (x : Normal) (sign : Sign) : Float :=
  .ofModel (.pack (x.unpacked sign))

/-- The number one as a double. -/
def one : Normal where
  mantissa := 2 ^ 52
  exponent := -52
  le_mantissa := by decide
  mantissa_lt := by decide
  le_exponent := by decide
  exponent_le := by decide

theorem log2_mantissa (x : Normal) : x.mantissa.log2 = 52 :=
  (Nat.log2_eq_iff x.mantissa_pos.ne').mpr ⟨x.le_mantissa, x.mantissa_lt⟩

/-- The bits of the exponent. -/
def biased (x : Normal) : Nat :=
  (x.exponent + 1075).toNat

theorem biased_bounds (x : Normal) : 1 ≤ x.biased ∧ x.biased ≤ 2046 := by
  have := x.le_exponent
  have := x.exponent_le
  rw [biased]
  omega

theorem biased_sub_eq (x : Normal) : (x.biased : Int) - 1075 = x.exponent := by
  have := x.le_exponent
  rw [biased]
  omega

theorem pack_unpacked (x : Normal) (sign : Sign) :
    UnpackedFloat.pack .binary64 (x.unpacked sign) =
      packComponents .binary64 sign (BitVec.ofNat 11 x.biased)
        (BitVec.ofNat 52 x.mantissa) := by
  have hbiased : (x.exponent + (Format.binary64.exponentBias : Int) +
      (Format.binary64.mantissaBitsWithoutImplicit : Int)).toNat =
      x.biased := by
    change (x.exponent + 1023 + 52).toNat = _
    rw [biased, Int.add_assoc]
    rfl
  have hfits : ¬ 2 ^ 11 ≤ x.biased + 1 := by
    have := x.biased_bounds
    omega
  simp only [UnpackedFloat.pack, unpacked, hbiased, x.log2_mantissa]
  rw [if_neg hfits, if_pos (by decide)]

/-- The bits of a normal double as a number. -/
theorem toNat_packComponents (sign : Sign) (e : BitVec 11) (m : BitVec 52) :
    (packComponents .binary64 sign e m).toNat =
      sign.toBitVec.toNat * 2 ^ 63 + e.toNat * 2 ^ 52 + m.toNat := by
  have he := e.isLt
  have hm := m.isLt
  change (sign.toBitVec ++ e ++ m).toNat = _
  rw [BitVec.toNat_append, BitVec.toNat_append,
    ← Nat.shiftLeft_add_eq_or_of_lt hm, ← Nat.shiftLeft_add_eq_or_of_lt he,
    Nat.shiftLeft_eq, Nat.shiftLeft_eq]
  omega

theorem toNat_mantissa (x : Normal) :
    (1#1 ++ BitVec.ofNat 52 x.mantissa).toNat = x.mantissa := by
  have hlow := x.le_mantissa
  have hhigh := x.mantissa_lt
  rw [BitVec.toNat_append, ← Nat.shiftLeft_add_eq_or_of_lt (BitVec.isLt _),
    Nat.shiftLeft_eq, BitVec.toNat_ofNat, BitVec.toNat_ofNat]
  omega

/-- A normal double is kept as it is. -/
theorem unpack_toFloat (x : Normal) (sign : Sign) :
    (x.toFloat sign).toModel.unpack = x.unpacked sign := by
  have hbiased : (BitVec.ofNat 11 x.biased).toNat = x.biased := by
    have := x.biased_bounds
    rw [BitVec.toNat_ofNat]
    omega
  have hne : ∀ e : BitVec 11, e.toNat ≠ x.biased →
      BitVec.ofNat 11 x.biased ≠ e := by
    rintro e he rfl
    exact he hbiased
  have hones : BitVec.ofNat 11 x.biased ≠ -1#11 := hne _ (by
    have := x.biased_bounds
    change 2047 ≠ _
    omega)
  have hzero : BitVec.ofNat 11 x.biased ≠ 0#11 := hne _ (by
    have := x.biased_bounds
    change 0 ≠ _
    omega)
  change UnpackedFloat.unpack .binary64
    (UnpackedFloat.pack .binary64 (x.unpacked sign)) = _
  rw [pack_unpacked, UnpackedFloat.unpack]
  simp only [unpackMantissa_packComponents, unpackExponent_packComponents,
    unpackSign_packComponents, Sign.ofBitVec_toBitVec, if_neg hones,
    if_neg hzero, hbiased, toNat_mantissa]
  rw [unpacked]
  congr 1
  exact x.biased_sub_eq

theorem classify_toFloat (x : Normal) (sign : Sign) :
    classify (x.toFloat sign) =
      .finite ⟨sign == .negative, x.mantissa, x.exponent⟩ := by
  have hbits : (x.toFloat sign).toBits.toNat =
      sign.toBitVec.toNat * 2 ^ 63 + x.biased * 2 ^ 52 +
      (x.mantissa - 2 ^ 52) := by
    have hbiased := x.biased_bounds
    have hlow := x.le_mantissa
    have hhigh := x.mantissa_lt
    change (UnpackedFloat.pack .binary64 (x.unpacked sign)).toNat = _
    rw [pack_unpacked, toNat_packComponents, BitVec.toNat_ofNat,
      BitVec.toNat_ofNat]
    omega
  have hbiased := x.biased_bounds
  have hlow := x.le_mantissa
  have hhigh := x.mantissa_lt
  have hsign : (sign.toBitVec.toNat == 1) = (sign == .negative) := by
    cases sign <;> rfl
  have htop : (x.toFloat sign).toBits.toNat / Nat.pow 2 63 =
      sign.toBitVec.toNat := by
    change _ / 2 ^ 63 = _
    omega
  have hmiddle : (x.toFloat sign).toBits.toNat / Nat.pow 2 52 % Nat.pow 2 11 =
      x.biased := by
    change _ / 2 ^ 52 % 2 ^ 11 = _
    omega
  have hbottom : (x.toFloat sign).toBits.toNat % Nat.pow 2 52 =
      x.mantissa - 2 ^ 52 := by
    change _ % 2 ^ 52 = _
    omega
  rw [classify]
  simp only [htop, hmiddle, hbottom, hsign, x.biased_sub_eq]
  rw [if_neg (by omega), if_neg (by omega)]
  change FloatClass.finite ⟨_, x.mantissa - 2 ^ 52 + 2 ^ 52, _⟩ = _
  rw [Nat.sub_add_cancel hlow]

end Normal

/-! ## Rounding to a normal double -/

theorem shiftToTargetExponent_eq {n d : Nat} {e : Int} (hlog : n.log2 = 52 + d)
    (he : -1074 ≤ e + d) :
    shiftToTargetExponent .binary64 n e .exact =
      (ExtendedMantissa.ofMantissaAndAccuracy n .exact >>> d, e + d) := by
  have htarget : Format.binary64.targetExponent (totalExponent n e) =
      e + d := by
    change max ((n.log2 : Int) + 1 + e - 53) (-1074) = _
    omega
  have hshift : (e + d - e).toNat = d := by omega
  simp only [shiftToTargetExponent, shiftToExponent, htarget, hshift]

namespace Normal

/-- A mantissa that has grown beyond its bits is halved. -/
def Carries (x : Normal) (m : Nat) (e : Int) : Prop :=
  (x.mantissa = m ∧ x.exponent = e) ∨
    (m = 2 ^ 53 ∧ x.mantissa = 2 ^ 52 ∧ x.exponent = e + 1)

theorem Carries.shift {x : Normal} {m : Nat} {e : Int} (h : x.Carries m e) :
    (shiftToTargetExponent .binary64 m e .exact).1.mantissa = x.mantissa ∧
      (shiftToTargetExponent .binary64 m e .exact).2 = x.exponent := by
  have hlow := x.le_exponent
  rcases h with ⟨rfl, rfl⟩ | ⟨rfl, hmantissa, hexponent⟩
  · rw [@shiftToTargetExponent_eq x.mantissa 0 x.exponent x.log2_mantissa
      (by omega)]
    exact ⟨rfl, Int.add_zero _⟩
  · rw [@shiftToTargetExponent_eq (2 ^ 53) 1 e Nat.log2_two_pow (by omega),
      hmantissa, hexponent, shiftRight_succ]
    exact ⟨rfl, rfl⟩

/-- Rounding keeps the leading bits of a mantissa that has more of them. -/
theorem Carries.roundWithAccuracy_eq {x : Normal} {n d : Nat} {e : Int}
    (h : x.Carries (roundDiv n (2 ^ d)) (e + d)) (hlog : n.log2 = 52 + d)
    (he : -1074 ≤ e + d) (sign : Sign) :
    roundWithAccuracy .binary64 sign n e .exact = x.unpacked sign := by
  have hpos := x.mantissa_pos
  rw [← roundedMantissa_shiftRight] at h
  obtain ⟨hmantissa, hexponent⟩ := h.shift
  rw [roundWithAccuracy, shiftToTargetExponent_eq hlog he]
  simp only [unpacked, hmantissa, hexponent]
  rw [dif_neg (by omega)]

theorem le_roundDiv {n : Nat} (hpos : 0 < n) :
    2 ^ 52 ≤ roundDiv (n * 2 ^ 52) (2 ^ n.log2) := by
  have hmono := roundDiv_mono (2 ^ n.log2)
    (Nat.mul_le_mul_right (2 ^ 52) (Nat.log2_self_le hpos.ne'))
  rwa [Nat.mul_comm, roundDiv_mul_self _ (Nat.two_pow_pos _)] at hmono

theorem roundDiv_le {n : Nat} :
    roundDiv (n * 2 ^ 52) (2 ^ n.log2) ≤ 2 ^ 53 := by
  have hle : n ≤ 2 ^ (n.log2 + 1) := Nat.lt_log2_self.le
  have hmono := roundDiv_mono (2 ^ n.log2) (Nat.mul_le_mul_right (2 ^ 52) hle)
  rwa [show 2 ^ (n.log2 + 1) * 2 ^ 52 = 2 ^ 53 * 2 ^ n.log2 by ring,
    roundDiv_mul_self _ (Nat.two_pow_pos _)] at hmono

/-- The double nearest to a positive number. -/
def nearest (n : Nat) (hpos : 0 < n) (hsize : n < 2 ^ 64) : Normal :=
  have hlog : n.log2 < 64 := (Nat.log2_lt hpos.ne').mpr hsize
  if h : roundDiv (n * 2 ^ 52) (2 ^ n.log2) < 2 ^ 53 then
    { mantissa := roundDiv (n * 2 ^ 52) (2 ^ n.log2)
      exponent := n.log2 - 52
      le_mantissa := le_roundDiv hpos
      mantissa_lt := h
      le_exponent := by omega
      exponent_le := by omega }
  else
    { mantissa := 2 ^ 52
      exponent := n.log2 - 51
      le_mantissa := Nat.le_refl _
      mantissa_lt := by decide
      le_exponent := by omega
      exponent_le := by omega }

theorem carries_nearest {n : Nat} (hpos : 0 < n) (hsize : n < 2 ^ 64) :
    (nearest n hpos hsize).Carries (roundDiv (n * 2 ^ 52) (2 ^ n.log2))
    (n.log2 - 52) := by
  rw [nearest, Carries]
  split
  · exact .inl ⟨rfl, rfl⟩
  · next h =>
      refine .inr ⟨roundDiv_le.antisymm (Nat.le_of_not_lt h), rfl, ?_⟩
      change (n.log2 : Int) - 51 = _
      omega

theorem log2_mul_two_pow {n : Nat} (hpos : 0 < n) (k : Nat) :
    (n * 2 ^ k).log2 = n.log2 + k := by
  rw [Nat.log2_eq_iff (Nat.mul_pos hpos (Nat.two_pow_pos k)).ne', Nat.pow_add,
    Nat.add_right_comm, Nat.pow_add]
  exact ⟨Nat.mul_le_mul_right _ (Nat.log2_self_le hpos.ne'),
    (Nat.mul_lt_mul_right (Nat.two_pow_pos k)).mpr Nat.lt_log2_self⟩

/-- A positive number is rounded alike however many bits are shifted in
before. -/
theorem roundWithAccuracy_nearest {n k d : Nat} (hpos : 0 < n)
    (hsize : n < 2 ^ 64) (hk : n.log2 + k = 52 + d) (sign : Sign) :
    roundWithAccuracy .binary64 sign (n * 2 ^ k) (-k) .exact =
      (nearest n hpos hsize).unpacked sign := by
  have hratio : roundDiv (n * 2 ^ k) (2 ^ d) =
      roundDiv (n * 2 ^ 52) (2 ^ n.log2) := by
    refine roundDiv_congr (Nat.two_pow_pos _) (Nat.two_pow_pos _) ?_
    rw [Nat.mul_assoc, Nat.mul_assoc, ← Nat.pow_add, ← Nat.pow_add,
      Nat.add_comm k, hk]
  have hcarries := carries_nearest hpos hsize
  rw [← hratio, show (n.log2 : Int) - 52 = -k + d by omega] at hcarries
  refine hcarries.roundWithAccuracy_eq ?_ (by omega) sign
  rw [log2_mul_two_pow hpos, hk]

/-! ## Order -/

/-- The order of normal doubles. -/
def Less (x y : Normal) : Prop :=
  x.exponent < y.exponent ∨ (x.exponent = y.exponent ∧ x.mantissa < y.mantissa)

theorem compare_positive {x y : Normal} (h : x.Less y) :
    (x.unpacked .positive).compare (y.unpacked .positive) = some .lt := by
  rw [unpacked, unpacked, UnpackedFloat.compare, Option.some_inj,
    Ordering.then_eq_lt, Int.compare_eq_lt, Int.compare_eq_eq,
    Nat.compare_eq_lt]
  exact h

theorem compare_negative {x y : Normal} (h : x.Less y) :
    (y.unpacked .negative).compare (x.unpacked .negative) = some .lt := by
  have hswap :
      ((compare y.exponent x.exponent).then
        (compare y.mantissa x.mantissa)).swap =
      (compare x.exponent y.exponent).then (compare x.mantissa y.mantissa) := by
    rw [Ordering.swap_then, ← Std.OrientedCmp.eq_swap,
      ← Std.OrientedCmp.eq_swap]
  rw [unpacked, unpacked, UnpackedFloat.compare, hswap, Option.some_inj,
    Ordering.then_eq_lt, Int.compare_eq_lt, Int.compare_eq_eq,
    Nat.compare_eq_lt]
  exact h

/-- Larger numbers do not become smaller doubles. -/
theorem nearest_mono {m n : Nat} (hm : 0 < m) (hmn : m ≤ n) (hn : n < 2 ^ 64) :
    nearest m hm (hmn.trans_lt hn) = nearest n (hm.trans_le hmn) hn ∨
      (nearest m hm (hmn.trans_lt hn)).Less
        (nearest n (hm.trans_le hmn) hn) := by
  have hfirst := carries_nearest hm (hmn.trans_lt hn)
  have hsecond := carries_nearest (hm.trans_le hmn) hn
  have hlow := (nearest n (hm.trans_le hmn) hn).le_mantissa
  have hhigh := (nearest n (hm.trans_le hmn) hn).mantissa_lt
  have hround := roundDiv_mono (2 ^ n.log2) (Nat.mul_le_mul_right (2 ^ 52) hmn)
  have hround' := @roundDiv_le n
  have hlog : m.log2 ≤ n.log2 := (Nat.le_log2 (hm.trans_le hmn).ne').mpr
    ((Nat.log2_self_le hm.ne').trans hmn)
  rw [Normal.ext_iff, Less]
  rw [Carries] at hfirst hsecond
  rcases hlog.lt_or_eq with hlt | heq
  · omega
  · rw [heq] at hfirst
    omega

end Normal

/-! ## Exact numbers -/

/-- A whole number that a mantissa holds, apart from a power of two. -/
def IsDouble (n : Int) : Prop :=
  ∃ m k, m < 2 ^ 53 ∧ n.natAbs = m * 2 ^ k

theorem isDouble_of_natAbs_le {n : Int} (h : n.natAbs ≤ 2 ^ 53) :
    IsDouble n := by
  rcases h.lt_or_eq with hlt | heq
  · exact ⟨n.natAbs, 0, hlt, by simp⟩
  · exact ⟨1, 53, by decide, by simp [heq]⟩

namespace Normal

theorem Carries.value_eq {x : Normal} {m : Nat} {e : Int} (h : x.Carries m e) :
    (x.mantissa * 2 ^ x.exponent : ℚ) = m * 2 ^ e := by
  rcases h with ⟨hmantissa, hexponent⟩ | ⟨rfl, hmantissa, hexponent⟩
  · rw [hmantissa, hexponent]
  · rw [hmantissa, hexponent, zpow_add_one₀ two_ne_zero]
    push_cast
    ring

theorem value_nearest_eq_iff {n : Nat} (hpos : 0 < n) (hsize : n < 2 ^ 64) :
    ((nearest n hpos hsize).mantissa *
      2 ^ (nearest n hpos hsize).exponent : ℚ) = n ↔
      roundDiv (n * 2 ^ 52) (2 ^ n.log2) * 2 ^ n.log2 = n * 2 ^ 52 := by
  rw [(carries_nearest hpos hsize).value_eq, zpow_sub₀ two_ne_zero,
    ← mul_div_assoc, div_eq_iff (by positivity), zpow_natCast]
  norm_cast

theorem roundDiv_mul_eq_iff {n : Nat} (hpos : 0 < n) :
    roundDiv (n * 2 ^ 52) (2 ^ n.log2) * 2 ^ n.log2 = n * 2 ^ 52 ↔
      IsDouble n := by
  rw [IsDouble, Int.natAbs_natCast]
  constructor
  · intro h
    by_cases hlog : n.log2 < 53
    · exact ⟨n, 0, (Nat.log2_lt hpos.ne').mp hlog, by simp⟩
    · have hn : n = roundDiv (n * 2 ^ 52) (2 ^ n.log2) * 2 ^ (n.log2 - 52) := by
        apply Nat.eq_of_mul_eq_mul_right (Nat.two_pow_pos 52)
        rw [Nat.mul_assoc, ← Nat.pow_add, Nat.sub_add_cancel (by omega), h]
      rcases (@roundDiv_le n).lt_or_eq with hlt | heq
      · exact ⟨_, _, hlt, hn⟩
      · refine ⟨1, 53 + (n.log2 - 52), by decide, ?_⟩
        rw [heq, ← Nat.pow_add] at hn
        rwa [Nat.one_mul]
  · rintro ⟨m, k, hm, rfl⟩
    have hpos' : 0 < m := Nat.pos_of_mul_pos_right hpos
    have hlog : m.log2 < 53 := (Nat.log2_lt hpos'.ne').mpr hm
    have hexact : m * 2 ^ k * 2 ^ 52 =
        m * 2 ^ (52 - m.log2) * 2 ^ (m * 2 ^ k).log2 := by
      rw [log2_mul_two_pow hpos', Nat.mul_assoc, Nat.mul_assoc, ← Nat.pow_add,
        ← Nat.pow_add]
      congr 2
      omega
    rw [hexact, roundDiv_mul_self _ (Nat.two_pow_pos _)]

end Normal

end ReportQuery.Decimal
