import ReportQuery.Cell.Cast
import ReportQuery.Proofs.Decimal.Comparison
import ReportQuery.Proofs.Report.Rectangular

/-!
# The order of cells

Cells of one column are compared by their values, unset ones first. The
comparison is a total preorder on the cells of a column as long as none of them
is NaN, which a text can denote. NaN is equal to every cell that is set, so two
cells that are equal to it need not be equal to each other; nothing else breaks
a chain of comparisons.
-/

namespace ReportQuery

variable {α β : Type}

namespace OrdersOn

variable {P : α → Prop} {cmp : α → α → Ordering}

/-- Optional values are ordered as the values are, unset ones first. -/
theorem options (h : OrdersOn P cmp) :
    OrdersOn (fun o : Option α => ∀ a ∈ o, P a)
      (CellValue.compareOptions cmp) where
  swap {o p} ho hp := by
    cases o with
    | none => cases p <;> rfl
    | some a =>
        cases p with
        | none => rfl
        | some b => exact h.swap (ho a rfl) (hp b rfl)
  trans {o p q} ho hp hq hop hpq := by
    cases o with
    | none => cases q <;> simp [CellValue.compareOptions]
    | some a =>
        cases p with
        | none => exact absurd rfl hop
        | some b =>
            cases q with
            | none => exact absurd rfl hpq
            | some c => exact h.trans (ho a rfl) (hp b rfl) (hq c rfl) hop hpq

/-- Values made by a function are ordered as those that they are made of. -/
theorem image {cmp' : β → β → Ordering} (h : OrdersOn P cmp) (f : α → β)
    (hf : ∀ a b, cmp' (f a) (f b) = cmp a b) :
    OrdersOn (fun y => ∃ a, P a ∧ f a = y) cmp' where
  swap := by
    rintro _ _ ⟨a, ha, rfl⟩ ⟨b, hb, rfl⟩
    rw [hf, hf, h.swap ha hb]
  trans := by
    rintro _ _ _ ⟨a, ha, rfl⟩ ⟨b, hb, rfl⟩ ⟨c, hc, rfl⟩
    rw [hf, hf, hf]
    exact h.trans ha hb hc

end OrdersOn

instance : Std.TransCmp Moment.compare :=
  inferInstanceAs (Std.TransCmp (compareOn Moment.rank))

namespace CellValue

/-- Whether a value is set to NaN. -/
def isNaN : CellValue → Bool
  | float (some x) _ => x.isNaN
  | _ => false

variable {a b c : CellValue}

/-! ## Within one form -/

theorem ordersOn_int : OrdersOn (fun value => value.form = .int) compare := by
  refine ((OrdersOn.of_transCmp (P := fun _ => True)).options.image int
    fun _ _ => rfl).mono ?_
  rintro (n | _ | _ | _) hform
  case int => exact ⟨n, fun _ _ => trivial, rfl⟩
  all_goals simp [form] at hform

theorem ordersOn_float :
    OrdersOn (fun value => value.form = .float ∧ value.isNaN = false)
      compare := by
  refine ((ordersOn_compareFloats.options.comap Prod.fst).image
    (fun entry : Option Float × FloatStyle => float entry.1 entry.2)
      fun _ _ => rfl).mono ?_
  rintro (_ | ⟨x, style⟩ | _ | _) ⟨hform, hnan⟩
  case float =>
    refine ⟨(x, style), ?_, rfl⟩
    rintro y rfl
    exact hnan
  all_goals simp [form] at hform

theorem ordersOn_date : OrdersOn (fun value => value.form = .date) compare := by
  refine (((OrdersOn.of_transCmp (P := fun _ => True)).options.comap
    Prod.fst).image
    (fun entry : Option Moment × DateStyle => date entry.1 entry.2)
      fun _ _ => rfl).mono ?_
  rintro (_ | _ | ⟨m, style⟩ | _) hform
  case date => exact ⟨(m, style), fun _ _ => trivial, rfl⟩
  all_goals simp [form] at hform

theorem ordersOn_text : OrdersOn (fun value => value.form = .text) compare := by
  refine ((OrdersOn.of_transCmp (P := fun _ => True)).options.image text
    fun _ _ => rfl).mono ?_
  rintro (_ | _ | _ | s) hform
  case text => exact ⟨s, fun _ _ => trivial, rfl⟩
  all_goals simp [form] at hform

/-- Values of one form without NaN are in a total preorder. -/
theorem ordersOn_compare (form : CellForm) :
    OrdersOn (fun value => value.form = form ∧ value.isNaN = false)
      compare := by
  cases form with
  | int => exact ordersOn_int.mono fun _ h => h.1
  | float => exact ordersOn_float
  | date => exact ordersOn_date.mono fun _ h => h.1
  | text => exact ordersOn_text.mono fun _ h => h.1

/-! ## All values -/

theorem compareOptions_swap {cmp : α → α → Ordering}
    (h : ∀ a b, cmp b a = (cmp a b).swap) (o p : Option α) :
    compareOptions cmp p o = (compareOptions cmp o p).swap := by
  cases o with
  | none => cases p <;> rfl
  | some a =>
      cases p with
      | none => rfl
      | some b => exact h a b

theorem compare_swap (a b : CellValue) : b.compare a = (a.compare b).swap := by
  cases a with
  | int n =>
      cases b with
      | int k =>
          exact compareOptions_swap (fun _ _ => Std.OrientedCmp.eq_swap) n k
      | float | date | text => rfl
  | float x =>
      cases b with
      | float y => exact compareOptions_swap compareFloats_swap x y
      | int | date | text => rfl
  | date m =>
      cases b with
      | date k =>
          exact compareOptions_swap (fun _ _ => Std.OrientedCmp.eq_swap) m k
      | int | float | text => rfl
  | text s =>
      cases b with
      | text t =>
          exact compareOptions_swap (fun _ _ => Std.OrientedCmp.eq_swap) s t
      | int | float | date => rfl

theorem compare_self (a : CellValue) : a.compare a = .eq := by
  have hswap := a.compare_swap a
  cases hcmp : a.compare a with
  | eq => rfl
  | lt | gt => simp [hcmp] at hswap

/-- An unset value is never greater. -/
theorem compare_ne_gt_of_isUnset (ha : a.isUnset = true) (b : CellValue) :
    a.compare b ≠ .gt := by
  cases a with
  | int n | float n | date n | text n =>
      obtain rfl := Option.isNone_iff_eq_none.mp ha
      cases b with
      | int k | float k | date k | text k =>
          cases k <;> simp [compare, compareOptions]

theorem isNone_of_compareOptions_ne_gt {cmp : α → α → Ordering} {o p : Option α}
    (hp : p.isNone = true) (h : compareOptions cmp o p ≠ .gt) :
    o.isNone = true := by
  obtain rfl := Option.isNone_iff_eq_none.mp hp
  cases o with
  | none => rfl
  | some a => exact absurd rfl h

/-- A value of the form of an unset one is greater unless it is unset too. -/
theorem isUnset_of_compare_ne_gt (hform : a.form = b.form)
    (hb : b.isUnset = true) (hab : a.compare b ≠ .gt) : a.isUnset = true := by
  cases a with
  | int n =>
      cases b with
      | int k => exact isNone_of_compareOptions_ne_gt hb hab
      | float | date | text => simp [form] at hform
  | float x =>
      cases b with
      | float y => exact isNone_of_compareOptions_ne_gt hb hab
      | int | date | text => simp [form] at hform
  | date m =>
      cases b with
      | date k => exact isNone_of_compareOptions_ne_gt hb hab
      | int | float | text => simp [form] at hform
  | text s =>
      cases b with
      | text t => exact isNone_of_compareOptions_ne_gt hb hab
      | int | float | date => simp [form] at hform

/-- NaN is equal to every value of its form that is set. -/
theorem compare_eq_of_isNaN (ha : a.isNaN = true) (hform : a.form = b.form)
    (hb : b.isUnset = false) : a.compare b = .eq := by
  cases a with
  | float x =>
      cases x with
      | none => simp [isNaN] at ha
      | some x =>
          cases b with
          | float y =>
              cases y with
              | none => simp [isUnset] at hb
              | some y => exact compareFloats_of_isNaN (.inl ha)
          | int | date | text => simp [form] at hform
  | int | date | text => simp [isNaN] at ha

/-- Chains of comparisons hold together unless the value in the middle is
NaN. -/
theorem compare_ne_gt_trans (hab : a.form = b.form) (hbc : b.form = c.form)
    (hb : b.isNaN = false) (hle : a.compare b ≠ .gt)
    (hle' : b.compare c ≠ .gt) : a.compare c ≠ .gt := by
  cases hunset : a.isUnset with
  | true => exact compare_ne_gt_of_isUnset hunset c
  | false =>
      have hb' : b.isUnset = false := by
        rw [Bool.eq_false_iff] at hunset ⊢
        exact fun hset => hunset (isUnset_of_compare_ne_gt hab hset hle)
      have hc' : c.isUnset = false := by
        rw [Bool.eq_false_iff] at hb' ⊢
        exact fun hset => hb' (isUnset_of_compare_ne_gt hbc hset hle')
      cases ha : a.isNaN with
      | true => simp [compare_eq_of_isNaN ha (hab.trans hbc) hc']
      | false =>
          cases hc : c.isNaN with
          | true =>
              rw [c.compare_swap a, compare_eq_of_isNaN hc
                (hab.trans hbc).symm hunset]
              decide
          | false =>
              exact (ordersOn_compare c.form).trans ⟨hab.trans hbc, ha⟩
                ⟨hbc, hb⟩ ⟨rfl, hc⟩ hle hle'

end CellValue

namespace Cell

/-- Cells that raw values of one column denote: comparing two of them the other
way round reverses the comparison, each is equal to itself, an unset one is
never greater, and a chain of comparisons holds together unless the cell in the
middle is NaN. -/
theorem compare_of_cast {tag first second third : String} {a b c : Cell}
    (ha : cast first tag = .ok a) (hb : cast second tag = .ok b)
    (hc : cast third tag = .ok c) :
    b.compare a = (a.compare b).swap ∧ a.compare a = .eq ∧
    (a.isUnset = true → a.compare b ≠ .gt) ∧
    (a.compare b ≠ .gt → b.compare c ≠ .gt →
      a.compare c ≠ .gt ∨ b.value.isNaN = true) := by
  have hab : a.value.form = b.value.form :=
    (form_of_cast ha).trans (form_of_cast hb).symm
  have hbc : b.value.form = c.value.form :=
    (form_of_cast hb).trans (form_of_cast hc).symm
  refine ⟨CellValue.compare_swap _ _, CellValue.compare_self _, ?_, ?_⟩
  · intro hunset
    exact CellValue.compare_ne_gt_of_isUnset hunset _
  · intro hle hle'
    cases hnan : b.value.isNaN with
    | true => exact .inr rfl
    | false => exact .inl (CellValue.compare_ne_gt_trans hab hbc hnan hle hle')

/-- The cells that three raw values of a column denote, if they do and a check
passes on them. -/
theorem exists_cast {check : Cell → Cell → Cell → Bool}
    {tag first second third : String}
    (h : (match cast first tag, cast second tag, cast third tag with
      | .ok a, .ok b, .ok c => check a b c
      | _, _, _ => false) = true) :
    ∃ a b c, cast first tag = .ok a ∧ cast second tag = .ok b ∧
      cast third tag = .ok c ∧ check a b c = true := by
  cases ha : cast first tag with
  | error => simp [ha] at h
  | ok a =>
      cases hb : cast second tag with
      | error => simp [ha, hb] at h
      | ok b =>
          cases hc : cast third tag with
          | error => simp [ha, hb, hc] at h
          | ok c =>
              exact ⟨a, b, c, rfl, rfl, rfl, by simpa [ha, hb, hc] using h⟩

/-- The first of three raw values is unset, the second NaN, the third
infinite. -/
theorem compare_of_cast_infinity :
    ∃ unset nan infinity, cast " --" "DOUBLE" = .ok unset ∧
      cast "auto: nan" "DOUBLE" = .ok nan ∧ cast "inf" "DOUBLE" = .ok infinity ∧
      nan.compare unset = (unset.compare nan).swap ∧ unset.compare unset = .eq ∧
      unset.compare nan ≠ .gt ∧
      (unset.compare infinity ≠ .gt ∨ nan.value.isNaN = true) := by
  obtain ⟨unset, nan, infinity, hunset, hnan, hinfinity, hcheck⟩ :=
    @exists_cast (fun unset nan infinity => unset.isUnset &&
      nan.compare infinity != .gt) "DOUBLE" " --" "auto: nan" "inf" (by decide)
  rw [Bool.and_eq_true, bne_iff_ne] at hcheck
  obtain ⟨hswap, hself, hfirst, htrans⟩ := compare_of_cast hunset hnan hinfinity
  exact ⟨unset, nan, infinity, hunset, hnan, hinfinity, hswap, hself,
    hfirst hcheck.1, htrans (hfirst hcheck.1) hcheck.2⟩

/-- Two numbers that are equal to NaN need not be equal. -/
theorem compare_two_nan_one :
    ∃ two nan one, cast "2" "DOUBLE" = .ok two ∧ cast "nan" "DOUBLE" = .ok nan ∧
      cast "1" "DOUBLE" = .ok one ∧
      two.compare nan = .eq ∧ nan.compare one = .eq ∧
        two.compare one = .gt := by
  obtain ⟨two, nan, one, htwo, hnan, hone, hcheck⟩ :=
    @exists_cast (fun two nan one =>
        two.compare nan == .eq && nan.compare one == .eq &&
          two.compare one == .gt)
      "DOUBLE" "2" "nan" "1" (by decide)
  simp only [Bool.and_eq_true, beq_iff_eq] at hcheck
  exact ⟨two, nan, one, htwo, hnan, hone, hcheck.1.1, hcheck.1.2, hcheck.2⟩

end Cell

end ReportQuery
