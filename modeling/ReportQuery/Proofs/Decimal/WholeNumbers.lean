import ReportQuery.Decimal.Fixed
import ReportQuery.Proofs.Decimal.Rounding

/-!
# Whole numbers as doubles

A whole number of 64 bits is converted to the double nearest to it, without a
change to the order of numbers, but different numbers may become the same
double. A number is kept when a mantissa holds it, apart from a power of two,
as all numbers up to 2 ^ 53 do, and then the whole part of the double gives it
back.
-/

namespace ReportQuery.Decimal

open Float.Model Float.Model.UnpackedFloat

/-! ## Conversion -/

theorem ofNat_zero : Float.ofNat 0 = .ofModel (.pack (.zero .positive)) := by
  decide

/-- A number that a mantissa holds is shifted up to fill it. -/
theorem toFloat_toUInt64 {n : Nat} (hpos : 0 < n) (hsmall : n < 2 ^ 53) :
    n.toUInt64.toFloat = (Normal.nearest n hpos (by omega)).toFloat
      .positive := by
  have hlog : n.log2 < 53 := (Nat.log2_lt hpos.ne').mpr hsmall
  have hword : (n.toUInt64.toNat : Int) = n := by
    rw [Nat.toUInt64, UInt64.toNat_ofNat']
    omega
  have hcompare : compare (n : Int) 0 = .gt := Int.compare_eq_gt.mpr (by omega)
  have hshift :
      ((0 : Int) - Format.binary64.targetExponent (totalExponent n 0)).toNat =
      52 - n.log2 := by
    change (0 - max ((n.log2 : Int) + 1 + 0 - 53) (-1074)).toNat = _
    omega
  have hround : UnpackedFloat.round .binary64 .positive n 0 =
      (Normal.nearest n hpos (by omega)).unpacked .positive := by
    simp only [UnpackedFloat.round, decreaseExponent, hshift, Nat.shiftLeft_eq]
    rw [Int.zero_sub]
    exact Normal.roundWithAccuracy_nearest (d := 0) hpos _ (by omega) _
  change Float.ofModel
    (.pack (UnpackedFloat.ofInt .binary64 n.toUInt64.toNat)) = _
  rw [hword, UnpackedFloat.ofInt, UnpackedFloat.normalize, hcompare]
  exact congrArg (fun unpacked => Float.ofModel (.pack unpacked)) hround

theorem ofBits_one : Float.ofBits 0x3FF0000000000000 =
    Normal.one.toFloat .positive := by
  decide

theorem Normal.toFloat_mul_one (x : Normal) (hlow : -1022 ≤ x.exponent) :
    x.toFloat .positive * one.toFloat .positive = x.toFloat .positive := by
  change Float.ofModel
    (.pack (UnpackedFloat.mul .binary64 (x.toFloat .positive).toModel.unpack
    (one.toFloat .positive).toModel.unpack)) = _
  rw [unpack_toFloat, unpack_toFloat]
  have hcarries : x.Carries (roundDiv (x.mantissa * 2 ^ 52) (2 ^ 52))
      (x.exponent + -52 + 52) := by
    rw [roundDiv_mul_self _ (Nat.two_pow_pos _)]
    exact .inl ⟨rfl, by omega⟩
  have hround := hcarries.roundWithAccuracy_eq (n := x.mantissa * 2 ^ 52)
    (by rw [log2_mul_two_pow x.mantissa_pos, x.log2_mantissa])
      (by omega) .positive
  exact congrArg (fun unpacked => Float.ofModel (.pack unpacked)) hround

theorem Normal.le_exponent_nearest {n : Nat} (hpos : 0 < n)
    (hsize : n < 2 ^ 64) : -52 ≤ (nearest n hpos hsize).exponent := by
  rcases carries_nearest hpos hsize with ⟨-, h⟩ | ⟨-, -, h⟩
  · omega
  · omega

/-- A positive number becomes the double nearest to it. -/
theorem ofNat_eq_nearest {n : Nat} (hpos : 0 < n) (hsize : n < 2 ^ 64) :
    Float.ofNat n = (Normal.nearest n hpos hsize).toFloat .positive := by
  change Float.ofScientific n false 0 = _
  rw [Float.ofScientific]
  split
  · next h =>
      have hlow := Normal.le_exponent_nearest hpos hsize
      change n.toUInt64.toFloat * Float.ofBits 0x3FF0000000000000 = _
      rw [toFloat_toUInt64 hpos h.1, ofBits_one,
        Normal.toFloat_mul_one _ (by omega)]
  · next h =>
      have hlarge : 2 ^ 53 ≤ n := by omega
      have hlog : 53 ≤ n.log2 := (Nat.le_log2 hpos.ne').mpr hlarge
      change Float.ofModel (.pack (UnpackedFloat.ofScientific .binary64 n 0)) =
        _
      have hround := Normal.roundWithAccuracy_nearest (k := 53)
        (d := n.log2 + 1) hpos hsize (by omega) .positive
      have hbottom : ¬ (0 : Int) < -((2 : Int) ^ 11 + n.log2) := by omega
      rw [UnpackedFloat.ofScientific, dif_neg hpos.ne', if_neg (by decide),
        if_neg hbottom, if_pos (by decide)]
      change Float.ofModel (.pack
        (roundWithAccuracy .binary64 .positive (n <<< 53 * 1) (-53) .exact)) = _
      rw [Nat.mul_one, Nat.shiftLeft_eq]
      exact congrArg (fun unpacked => Float.ofModel (.pack unpacked)) hround

/-- A whole number as a double, before it is packed. -/
def unpackedOf (n : Int) : UnpackedFloat :=
  if h : 0 < n.natAbs ∧ n.natAbs < 2 ^ 64 then
    (Normal.nearest n.natAbs h.1 h.2).unpacked
      (if n < 0 then .negative else .positive)
  else .zero .positive

/-- A whole number of 64 bits becomes the double nearest to it. -/
theorem ofInt_eq {n : Int} (hsize : n.natAbs < 2 ^ 64) :
    Float.ofInt n = .ofModel (.pack (unpackedOf n)) := by
  match n with
  | .ofNat 0 => exact ofNat_zero
  | .ofNat (n + 1) =>
      have hsign : ¬ Int.ofNat (n + 1) < 0 :=
        (Int.natCast_nonneg (n + 1)).not_gt
      rw [unpackedOf, dif_pos ⟨Nat.succ_pos n, hsize⟩, if_neg hsign]
      exact ofNat_eq_nearest (Nat.succ_pos n) hsize
  | .negSucc n =>
      rw [unpackedOf, dif_pos ⟨Nat.succ_pos n, hsize⟩, if_pos (by omega)]
      change Float.neg (Float.ofNat n.succ) = _
      rw [ofNat_eq_nearest (Nat.succ_pos n) hsize]
      change Float.ofModel (.pack
        ((Normal.nearest (n + 1) _ hsize).toFloat
          .positive).toModel.unpack.neg) = _
      rw [Normal.unpack_toFloat]
      rfl

theorem unpack_ofInt {n : Int} (hsize : n.natAbs < 2 ^ 64) :
    (Float.ofInt n).toModel.unpack = unpackedOf n := by
  rw [ofInt_eq hsize, unpackedOf]
  split
  · exact Normal.unpack_toFloat _ _
  · rfl

/-! ## Order -/

theorem unpackedOf_of_pos {n : Int} (hpos : 0 < n) (hsize : n.natAbs < 2 ^ 64) :
    unpackedOf n = (Normal.nearest n.natAbs (by omega) hsize).unpacked
      .positive := by
  rw [unpackedOf, dif_pos ⟨by omega, hsize⟩, if_neg (by omega)]

theorem unpackedOf_of_neg {n : Int} (hneg : n < 0) (hsize : n.natAbs < 2 ^ 64) :
    unpackedOf n = (Normal.nearest n.natAbs (by omega) hsize).unpacked
      .negative := by
  rw [unpackedOf, dif_pos ⟨by omega, hsize⟩, if_pos hneg]

theorem unpackedOf_zero : unpackedOf 0 = .zero .positive := by
  rw [unpackedOf, dif_neg (by simp)]

theorem compare_unpackedOf {m n : Int} (hmn : m ≤ n) (hm : m.natAbs < 2 ^ 64)
    (hn : n.natAbs < 2 ^ 64) :
    unpackedOf m = unpackedOf n ∨
      (unpackedOf m).compare (unpackedOf n) = some .lt := by
  rcases lt_trichotomy m 0 with hmneg | rfl | hmpos
  · rw [unpackedOf_of_neg hmneg hm]
    rcases lt_trichotomy n 0 with hnneg | rfl | hnpos
    · rw [unpackedOf_of_neg hnneg hn]
      exact (Normal.nearest_mono (by omega)
        (by omega : n.natAbs ≤ m.natAbs) hm).imp
        (fun heq => by rw [heq]) Normal.compare_negative
    · rw [unpackedOf_zero]
      exact .inr rfl
    · rw [unpackedOf_of_pos hnpos hn]
      exact .inr rfl
  · rcases hmn.lt_or_eq with hnpos | rfl
    · rw [unpackedOf_zero, unpackedOf_of_pos hnpos hn]
      exact .inr rfl
    · exact .inl rfl
  · rw [unpackedOf_of_pos hmpos hm, unpackedOf_of_pos (hmpos.trans_le hmn) hn]
    exact (Normal.nearest_mono (by omega)
      (by omega : m.natAbs ≤ n.natAbs) hn).imp
      (fun heq => by rw [heq]) Normal.compare_positive

/-- A larger number does not become a smaller double. -/
theorem ofInt_mono {m n : Int} (hmn : m ≤ n) (hm : m.natAbs < 2 ^ 64)
    (hn : n.natAbs < 2 ^ 64) :
    Float.ofInt m = Float.ofInt n ∨ Float.ofInt m < Float.ofInt n := by
  rw [lt_iff_compare, unpack_ofInt hm, unpack_ofInt hn, ofInt_eq hm,
    ofInt_eq hn]
  exact (compare_unpackedOf hmn hm hn).imp (fun heq => by rw [heq]) id

theorem isNaN_ofInt {n : Int} (hsize : n.natAbs < 2 ^ 64) :
    (Float.ofInt n).isNaN = false := by
  change (Float.ofInt n).toModel.unpack.isNaN = false
  rw [unpack_ofInt hsize, unpackedOf]
  split <;> rfl

theorem lt_of_ofInt_lt {m n : Int} (hm : m.natAbs < 2 ^ 64)
    (hn : n.natAbs < 2 ^ 64) (h : Float.ofInt m < Float.ofInt n) : m < n := by
  by_contra hle
  have hback := ofInt_mono (Int.not_lt.mp hle) hn hm
  rw [lt_iff_comparePlaces (isNaN_ofInt hm) (isNaN_ofInt hn)] at h
  rw [lt_iff_comparePlaces (isNaN_ofInt hn) (isNaN_ofInt hm)] at hback
  rw [@Std.OrientedCmp.eq_swap _ comparePlaces] at h
  rcases hback with heq | hlt
  · rw [heq, @Std.ReflCmp.compare_self _ comparePlaces _ _] at h
    exact absurd h (by decide)
  · rw [hlt] at h
    exact absurd h (by decide)

/-- The greater of two doubles is that of the greater number. -/
theorem ofInt_max {m n : Int} (hm : m.natAbs < 2 ^ 64)
    (hn : n.natAbs < 2 ^ 64) :
    (if Float.ofInt m < Float.ofInt n then Float.ofInt n else Float.ofInt m) =
      Float.ofInt (max m n) := by
  split
  · next hlt => rw [max_eq_right (lt_of_ofInt_lt hm hn hlt).le]
  · next hnot =>
      rcases le_total m n with hle | hle
      · rw [max_eq_right hle]
        exact (ofInt_mono hle hm hn).resolve_right hnot
      · rw [max_eq_left hle]

/-- The smaller of two doubles is that of the smaller number. -/
theorem ofInt_min {m n : Int} (hm : m.natAbs < 2 ^ 64)
    (hn : n.natAbs < 2 ^ 64) :
    (if Float.ofInt n < Float.ofInt m then Float.ofInt n else Float.ofInt m) =
      Float.ofInt (min m n) := by
  split
  · next hlt => rw [min_eq_right (lt_of_ofInt_lt hn hm hlt).le]
  · next hnot =>
      rcases le_total m n with hle | hle
      · rw [min_eq_left hle]
      · rw [min_eq_right hle]
        exact ((ofInt_mono hle hn hm).resolve_right hnot).symm

/-! ## Exact conversion -/

/-- The number that a finite double is. -/
def Binary.value (b : Binary) : ℚ :=
  (if b.negative then -1 else 1) * (b.mantissa * 2 ^ b.exponent)

/-- A double is exactly a whole number. -/
def Denotes (x : Float) (n : Int) : Prop :=
  ∃ b, classify x = .finite b ∧ b.value = n

theorem denotes_ofInt_zero : Denotes (Float.ofInt 0) 0 :=
  ⟨⟨false, 0, -1074⟩, by decide, by simp [Binary.value]⟩

theorem Normal.denotes_toFloat_iff (x : Normal) (sign : Sign) (n : Int) :
    Denotes (x.toFloat sign) n ↔
      (if sign == .negative then -1 else 1) *
        (x.mantissa * 2 ^ x.exponent : ℚ) = n := by
  rw [Denotes]
  constructor
  · rintro ⟨b, hb, hvalue⟩
    obtain rfl :=
      FloatClass.finite.inj ((x.classify_toFloat sign).symm.trans hb)
    exact hvalue
  · intro h
    exact ⟨_, x.classify_toFloat sign, h⟩

theorem Normal.value_nearest_natAbs {n : Int} (hpos : 0 < n.natAbs)
    (hsize : n.natAbs < 2 ^ 64) :
    ((nearest n.natAbs hpos hsize).mantissa *
      2 ^ (nearest n.natAbs hpos hsize).exponent : ℚ) =
      ((|n| : Int) : ℚ) ↔ IsDouble n := by
  rw [← Nat.cast_natAbs, value_nearest_eq_iff hpos hsize,
    roundDiv_mul_eq_iff hpos, IsDouble, IsDouble, Int.natAbs_natCast]

/-- A whole number is kept exactly when it is a double. -/
theorem denotes_ofInt_iff {n : Int} (hsize : n.natAbs < 2 ^ 64) :
    Denotes (Float.ofInt n) n ↔ IsDouble n := by
  rcases lt_trichotomy n 0 with hneg | rfl | hpos
  · rw [ofInt_eq hsize, unpackedOf_of_neg hneg hsize,
      ← Normal.value_nearest_natAbs _ hsize, abs_of_neg hneg]
    refine (Normal.denotes_toFloat_iff _ _ _).trans ?_
    rw [if_pos (by decide), neg_one_mul, neg_eq_iff_eq_neg, Int.cast_neg]
  · exact iff_of_true denotes_ofInt_zero (isDouble_of_natAbs_le (by simp))
  · rw [ofInt_eq hsize, unpackedOf_of_pos hpos hsize,
      ← Normal.value_nearest_natAbs _ hsize, abs_of_pos hpos]
    refine (Normal.denotes_toFloat_iff _ _ _).trans ?_
    rw [if_neg (by decide), one_mul]

theorem Binary.magnitude_eq {b : Binary} {k : Nat}
    (h : (b.mantissa * 2 ^ b.exponent : ℚ) = k) :
    (if 0 ≤ b.exponent then b.mantissa * 2 ^ b.exponent.toNat
      else b.mantissa / 2 ^ (-b.exponent).toNat) = k := by
  split
  · next hle =>
      rw [← Int.toNat_of_nonneg hle, zpow_natCast] at h
      exact_mod_cast h
  · next hlt =>
      have hshift : b.exponent = -((-b.exponent).toNat : Int) := by omega
      rw [hshift, zpow_neg, zpow_natCast, ← div_eq_mul_inv,
        div_eq_iff (pow_ne_zero _ two_ne_zero)] at h
      have hnat : b.mantissa = k * 2 ^ (-b.exponent).toNat := by
        exact_mod_cast h
      rw [hnat, Nat.mul_div_cancel _ (Nat.two_pow_pos _)]

/-- Nothing stands behind the point of a whole number. -/
theorem Binary.wholePart_of_value {b : Binary} {n : Int} (h : b.value = n) :
    b.wholePart = n := by
  have hnonneg : (0 : ℚ) ≤ b.mantissa * 2 ^ b.exponent :=
    mul_nonneg (Nat.cast_nonneg _) (zpow_nonneg zero_le_two _)
  have hnegate : b.value = if b.negative then -(b.mantissa * 2 ^ b.exponent : ℚ)
      else b.mantissa * 2 ^ b.exponent := by
    rw [value]
    split <;> ring
  rw [h] at hnegate
  have hmagnitude : (b.mantissa * 2 ^ b.exponent : ℚ) = (n.natAbs : Nat) := by
    rw [Nat.cast_natAbs, Int.cast_abs, hnegate]
    split
    · rw [abs_neg, abs_of_nonneg hnonneg]
    · rw [abs_of_nonneg hnonneg]
  have hparts : b.wholePart =
      if b.negative then -(n.natAbs : Int) else n.natAbs := by
    rw [← magnitude_eq hmagnitude]
    rfl
  rw [hparts]
  rw [hmagnitude, Nat.cast_natAbs] at hnegate
  split at hnegate
  · next hneg =>
      rw [if_pos hneg]
      exact_mod_cast hnegate.symm
  · next hneg =>
      rw [if_neg hneg]
      exact_mod_cast hnegate.symm

theorem Denotes.wholePart_eq {x : Float} {n : Int} (h : Denotes x n)
    (hlow : -(Numeral.signedBound : Int) ≤ n)
    (hhigh : n < Numeral.signedBound) : wholePart x = n := by
  obtain ⟨b, hb, hvalue⟩ := h
  rw [wholePart, hb]
  simp only [Binary.wholePart_of_value hvalue]
  omega

end ReportQuery.Decimal
