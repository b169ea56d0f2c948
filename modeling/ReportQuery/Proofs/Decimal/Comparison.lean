import Mathlib
import ReportQuery.Cell
import ReportQuery.Proofs.Sorting

/-!
# The order of doubles

Two doubles are compared by their signs, their exponents and their mantissas,
in this order. NaN is neither less nor greater than any double, so it counts as
equal to every double, and the order holds only among the others.
-/

namespace ReportQuery

namespace Decimal

open Float.Model

/-- Where a double stands among the others: its sign and whether it is finite,
then its exponent, then its mantissa. -/
def place : UnpackedFloat → Int × Int × Int
  | .infinity .negative => (-2, 0, 0)
  | .finite .negative m e _ => (-1, -e, -m)
  | .notANumber | .zero _ => (0, 0, 0)
  | .finite .positive m e _ => (1, e, m)
  | .infinity .positive => (2, 0, 0)

/-- The order of places. -/
def comparePlaces : Int × Int × Int → Int × Int × Int → Ordering :=
  compareLex (compareOn Prod.fst)
    (compareLex (compareOn fun place => place.2.1)
      (compareOn fun place => place.2.2))

instance : Std.TransCmp comparePlaces :=
  inferInstanceAs (Std.TransCmp (compareLex _ _))

theorem compare_neg_neg (a b : Int) :
    compare (-a) (-b) = (compare a b).swap := by
  rw [← Std.OrientedCmp.eq_swap (a := b)]
  simp [compare, compareOfLessAndEq, eq_comm]

theorem compare_natCast (m n : Nat) : compare (m : Int) n = compare m n := by
  simp only [compare, compareOfLessAndEq, Int.ofNat_lt, Int.ofNat_inj]

theorem compare_eq_comparePlaces {a b : UnpackedFloat} (ha : a ≠ .notANumber)
    (hb : b ≠ .notANumber) :
    a.compare b = some (comparePlaces (place a) (place b)) := by
  cases a with
  | notANumber => exact absurd rfl ha
  | infinity s | zero s =>
      cases b with
      | notANumber => exact absurd rfl hb
      | infinity t | zero t | finite t => cases s <;> cases t <;> rfl
  | finite s m e _ =>
      cases b with
      | notANumber => exact absurd rfl hb
      | infinity t | zero t => cases s <;> cases t <;> rfl
      | finite t n f _ =>
          cases s with
          | negative =>
              cases t with
              | negative =>
                  simp [UnpackedFloat.compare, comparePlaces, place,
                    compareLex, compareOn, compare_neg_neg, compare_natCast,
                    Ordering.swap_then]
              | positive => rfl
          | positive =>
              cases t with
              | negative => rfl
              | positive =>
                  simp [UnpackedFloat.compare, comparePlaces, place,
                    compareLex, compareOn, compare_natCast]

/-! ## Numbers -/

variable {x y : Float}

theorem lt_iff_compare :
    x < y ↔ x.toModel.unpack.compare y.toModel.unpack = some .lt := by
  change decide ((x.toModel.unpack.compare y.toModel.unpack ==
    some Ordering.lt) = true) = true ↔ _
  rw [decide_eq_true_iff, beq_iff_eq]

theorem unpack_eq_notANumber_iff : x.toModel.unpack = .notANumber ↔
    x.isNaN = true :=
  UnpackedFloat.isNaN_iff.symm

theorem unpack_ne_notANumber (hx : x.isNaN = false) :
    x.toModel.unpack ≠ .notANumber := by
  rw [Ne, unpack_eq_notANumber_iff, hx]
  exact Bool.false_ne_true

theorem lt_iff_comparePlaces (hx : x.isNaN = false) (hy : y.isNaN = false) :
    x < y ↔ comparePlaces (place x.toModel.unpack) (place y.toModel.unpack) =
      .lt := by
  rw [lt_iff_compare,
    compare_eq_comparePlaces (unpack_ne_notANumber hx)
      (unpack_ne_notANumber hy), Option.some_inj]

theorem not_lt_of_isNaN (h : x.isNaN = true ∨ y.isNaN = true) : ¬ x < y := by
  rw [lt_iff_compare]
  rcases h with hx | hy
  · rw [unpack_eq_notANumber_iff.mpr hx]
    simp [UnpackedFloat.compare]
  · rw [unpack_eq_notANumber_iff.mpr hy]
    cases x.toModel.unpack <;> simp [UnpackedFloat.compare]

end Decimal

namespace CellValue

open Decimal

variable {x y : Float}

theorem compareFloats_of_isNaN (h : x.isNaN = true ∨ y.isNaN = true) :
    compareFloats x y = .eq := by
  rw [compareFloats, if_neg (not_lt_of_isNaN h),
    if_neg (not_lt_of_isNaN h.symm)]

theorem compareFloats_eq_comparePlaces (hx : x.isNaN = false)
    (hy : y.isNaN = false) :
    compareFloats x y = comparePlaces (place x.toModel.unpack)
      (place y.toModel.unpack) := by
  unfold compareFloats
  have hswap : comparePlaces (place y.toModel.unpack) (place x.toModel.unpack) =
      (comparePlaces (place x.toModel.unpack) (place y.toModel.unpack)).swap :=
    Std.OrientedCmp.eq_swap
  simp only [lt_iff_comparePlaces hx hy, lt_iff_comparePlaces hy hx, hswap]
  cases comparePlaces (place x.toModel.unpack) (place y.toModel.unpack) <;> rfl

/-- Doubles that are numbers are in a total preorder. -/
theorem ordersOn_compareFloats :
    OrdersOn (fun x => x.isNaN = false) compareFloats :=
  (((OrdersOn.of_transCmp (P := fun _ => True)).comap fun x : Float =>
    place x.toModel.unpack).mono fun _ _ => trivial).congr
    fun _ _ hx hy => compareFloats_eq_comparePlaces hx hy

theorem compareFloats_swap (x y : Float) :
    compareFloats y x = (compareFloats x y).swap := by
  by_cases h : x.isNaN = true ∨ y.isNaN = true
  · rw [compareFloats_of_isNaN h, compareFloats_of_isNaN h.symm]
    rfl
  · rw [not_or, Bool.not_eq_true, Bool.not_eq_true] at h
    exact ordersOn_compareFloats.swap h.1 h.2

end CellValue

end ReportQuery
