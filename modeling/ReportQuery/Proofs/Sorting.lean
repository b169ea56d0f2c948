import Mathlib.Data.List.Basic
import Mathlib.Data.List.Pairwise
import Mathlib.Order.Basic

/-!
# Sorting by a comparison

A comparison may be an order on some values only, such as those of one column.
A list of such values has one stable sort: the rearrangement that is in order
and in which values that compare as equal keep the order they had. So sorting
by two comparisons, the second for the ties of the first, is sorting by the
second and then by the first.
-/

namespace ReportQuery

variable {α β : Type}

/-- A comparison is a total preorder on the values with a property. -/
structure OrdersOn (P : α → Prop) (cmp : α → α → Ordering) : Prop where
  swap : ∀ {a b}, P a → P b → cmp b a = (cmp a b).swap
  trans : ∀ {a b c}, P a → P b → P c → cmp a b ≠ .gt → cmp b c ≠ .gt →
    cmp a c ≠ .gt

namespace OrdersOn

variable {P Q : α → Prop} {cmp first second : α → α → Ordering} {a b c : α}

theorem of_transCmp [Std.TransCmp cmp] : OrdersOn P cmp where
  swap _ _ := Std.OrientedCmp.eq_swap
  trans _ _ _ hab hbc := by
    rw [Ne, Ordering.ne_gt_iff_isLE] at hab hbc ⊢
    exact Std.TransCmp.isLE_trans hab hbc

theorem transCmp (h : OrdersOn P cmp) :
    Std.TransCmp fun a b : Subtype P => cmp a b where
  eq_swap {a b} := h.swap b.2 a.2
  isLE_trans {a b c} hab hbc := by
    rw [Ordering.isLE_iff_ne_gt] at hab hbc ⊢
    exact h.trans a.2 b.2 c.2 hab hbc

theorem mono (h : OrdersOn P cmp) (hQ : ∀ a, Q a → P a) : OrdersOn Q cmp where
  swap ha hb := h.swap (hQ _ ha) (hQ _ hb)
  trans ha hb hc := h.trans (hQ _ ha) (hQ _ hb) (hQ _ hc)

theorem congr (h : OrdersOn P cmp)
    (heq : ∀ a b, P a → P b → first a b = cmp a b) : OrdersOn P first where
  swap ha hb := by rw [heq _ _ ha hb, heq _ _ hb ha, h.swap ha hb]
  trans ha hb hc := by
    rw [heq _ _ ha hb, heq _ _ hb hc, heq _ _ ha hc]
    exact h.trans ha hb hc

theorem comap (h : OrdersOn P cmp) (f : β → α) :
    OrdersOn (fun x => P (f x)) fun x y => cmp (f x) (f y) where
  swap ha hb := h.swap ha hb
  trans ha hb hc := h.trans ha hb hc

theorem const_eq : OrdersOn P fun _ _ => .eq where
  swap _ _ := rfl
  trans _ _ _ _ _ := by simp

theorem refl (h : OrdersOn P cmp) (ha : P a) : cmp a a = .eq := by
  have hswap := h.swap ha ha
  cases hcmp : cmp a a with
  | eq => rfl
  | lt | gt => simp [hcmp] at hswap

theorem eq_of_ne_gt (h : OrdersOn P cmp) (ha : P a) (hb : P b)
    (hab : cmp a b ≠ .gt) (hba : cmp b a ≠ .gt) : cmp a b = .eq := by
  rw [h.swap ha hb, Ne, Ordering.swap_eq_gt] at hba
  cases hcmp : cmp a b with
  | eq => rfl
  | lt => exact absurd hcmp hba
  | gt => exact absurd hcmp hab

/-- Values that compare as equal compare alike with any other. -/
theorem congr_left (h : OrdersOn P cmp) (ha : P a) (hb : P b) (hc : P c)
    (hab : cmp a b = .eq) : cmp a c = cmp b c := by
  have := h.transCmp
  exact @Std.TransCmp.congr_left _ (fun a b : Subtype P => cmp a b) _ ⟨a, ha⟩
    ⟨b, hb⟩ ⟨c, hc⟩ hab

theorem reverse (h : OrdersOn P cmp) :
    OrdersOn P fun a b => (cmp a b).swap where
  swap ha hb := congrArg Ordering.swap (h.swap ha hb)
  trans {a b c} ha hb hc hab hbc := by
    rw [← h.swap ha hb] at hab
    rw [← h.swap hb hc] at hbc
    rw [← h.swap ha hc]
    exact h.trans hc hb ha hbc hab

/-- The second comparison decides the ties of the first. -/
theorem lex (hfirst : OrdersOn P first) (hsecond : OrdersOn P second) :
    OrdersOn P fun a b => (first a b).then (second a b) where
  swap ha hb := by
    rw [hfirst.swap ha hb, hsecond.swap ha hb, Ordering.swap_then]
  trans {a b c} ha hb hc hab hbc := by
    have := hfirst.transCmp
    have := hsecond.transCmp
    rw [Ne, Ordering.ne_gt_iff_isLE] at hab hbc ⊢
    exact @Std.TransCmp.isLE_trans _
      (compareLex (fun a b : Subtype P => first a b) fun a b : Subtype P =>
        second a b) _
      ⟨a, ha⟩ ⟨b, hb⟩ ⟨c, hc⟩ hab hbc

/-! ## The stable sort -/

section Lists

variable {l m : List α}

/-- A list of values with a property is a list of the type of these values. -/
theorem exists_sorted_subtype (h : OrdersOn P cmp) (hl : ∀ a ∈ l, P a) :
    ∃ l' : List (Subtype P), l'.map Subtype.val = l ∧
      (l'.mergeSort fun a b => cmp a b != .gt).map Subtype.val =
        l.mergeSort (fun a b => cmp a b != .gt) ∧
      (∀ a b c : Subtype P, cmp a b != .gt → cmp b c != .gt → cmp a c != .gt) ∧
      ∀ a b : Subtype P, (cmp a b != .gt || cmp b a != .gt) = true := by
  refine ⟨l.attachWith P hl, List.attachWith_map_subtype_val hl, ?_, ?_, ?_⟩
  · rw [List.map_mergeSort (s := fun a b => cmp a b != .gt) fun _ _ _ _ => rfl,
      List.attachWith_map_subtype_val]
  · intro a b c hab hbc
    rw [bne_iff_ne] at hab hbc ⊢
    exact h.trans a.2 b.2 c.2 hab hbc
  · intro a b
    rw [h.swap a.2 b.2]
    cases cmp a b <;> rfl

theorem pairwise_mergeSort (h : OrdersOn P cmp) (hl : ∀ a ∈ l, P a) :
    (l.mergeSort fun a b => cmp a b != .gt).Pairwise fun a b =>
      cmp a b ≠ .gt := by
  obtain ⟨l', rfl, hsort, htrans, htotal⟩ := h.exists_sorted_subtype hl
  rw [← hsort, List.pairwise_map]
  exact (List.pairwise_mergeSort htrans htotal l').imp fun hle =>
    bne_iff_ne.mp hle

/-- What is in order within a list keeps its order when the list is sorted. -/
theorem sublist_mergeSort (h : OrdersOn P cmp) (hl : ∀ a ∈ l, P a)
    (hm : m.Pairwise fun a b => cmp a b ≠ .gt) (hsub : m.Sublist l) :
    m.Sublist (l.mergeSort fun a b => cmp a b != .gt) := by
  obtain ⟨l', rfl, hsort, htrans, htotal⟩ := h.exists_sorted_subtype hl
  obtain ⟨m', hsub', rfl⟩ := List.sublist_map_iff.mp hsub
  rw [← hsort]
  refine (List.sublist_mergeSort htrans htotal ?_ hsub').map _
  exact (List.pairwise_map.mp hm).imp fun hle => bne_iff_ne.mpr hle

/-- Values that compare as equal keep their order. -/
theorem filter_mergeSort (h : OrdersOn P cmp) (hl : ∀ a ∈ l, P a) (ha : P a) :
    (l.mergeSort fun a b => cmp a b != .gt).filter (fun b => cmp a b == .eq) =
      l.filter fun b => cmp a b == .eq := by
  have hties : (l.filter fun b => cmp a b == .eq).Pairwise fun b c =>
      cmp b c ≠ .gt := by
    refine List.Pairwise.imp_of_mem ?_
      (List.pairwise_of_forall fun _ _ => trivial)
    intro b c hb hc _
    obtain ⟨hb, hab⟩ := List.mem_filter.mp hb
    obtain ⟨hc, hac⟩ := List.mem_filter.mp hc
    rw [← h.congr_left ha (hl b hb) (hl c hc) (beq_iff_eq.mp hab),
      beq_iff_eq.mp hac]
    decide
  have hsub := (h.sublist_mergeSort hl hties List.filter_sublist).filter
    fun b => cmp a b == .eq
  rw [List.filter_filter] at hsub
  simp only [Bool.and_self] at hsub
  exact (hsub.eq_of_length
    ((List.mergeSort_perm l _).filter _).length_eq.symm).symm

/-- A rearrangement in order is known by the order of its ties. -/
theorem eq_of_ties (h : OrdersOn P cmp) (hl : ∀ a ∈ l, P a) (hperm : l.Perm m)
    (hsorted : l.Pairwise fun a b => cmp a b ≠ .gt)
    (hsorted' : m.Pairwise fun a b => cmp a b ≠ .gt)
    (hties : ∀ a ∈ l, (l.filter fun b => cmp a b == .eq) =
      m.filter fun b => cmp a b == .eq) :
    l = m := by
  induction l generalizing m with
  | nil => exact hperm.nil_eq
  | cons a l ih =>
      cases m with
      | nil => exact hperm.eq_nil
      | cons b m =>
          have ha := hl a List.mem_cons_self
          have hb := hl b (hperm.mem_iff.mpr List.mem_cons_self)
          have hab : cmp a b = .eq := by
            refine h.eq_of_ne_gt ha hb ?_ ?_
            · rcases List.mem_cons.mp
                (hperm.mem_iff.mpr List.mem_cons_self) with rfl | hmem
              · simp [h.refl ha]
              · exact List.rel_of_pairwise_cons hsorted hmem
            · rcases List.mem_cons.mp (hperm.mem_iff.mp List.mem_cons_self) with
                rfl | hmem
              · simp [h.refl ha]
              · exact List.rel_of_pairwise_cons hsorted' hmem
          have hheads := hties a List.mem_cons_self
          rw [List.filter_cons_of_pos (by simp [h.refl ha]),
            List.filter_cons_of_pos (by simp [hab])] at hheads
          obtain rfl := (List.cons.inj hheads).1
          have hrest : ∀ c ∈ l, (l.filter fun b => cmp c b == .eq) =
              m.filter fun b => cmp c b == .eq := by
            intro c hc
            have hboth := hties c (List.mem_cons_of_mem a hc)
            simp only [List.filter_cons] at hboth
            split at hboth
            · exact (List.cons.inj hboth).2
            · exact hboth
          rw [ih (fun c hc => hl c (List.mem_cons_of_mem a hc))
            ((List.perm_cons a).mp hperm)
            hsorted.of_cons hsorted'.of_cons hrest]

/-- Sorting again by a first comparison orders by both, since the ties of the
first stay as they were. -/
theorem pairwise_mergeSort_mergeSort (hfirst : OrdersOn P first)
    (hsecond : OrdersOn P second) (hl : ∀ a ∈ l, P a) :
    ((l.mergeSort fun a b => second a b != .gt).mergeSort fun a b =>
      first a b != .gt).Pairwise
      fun a b => (first a b).then (second a b) ≠ .gt := by
  have hinner : ∀ a ∈ l.mergeSort fun a b => second a b != .gt, P a :=
    fun a ha => hl a (List.mem_mergeSort.mp ha)
  rw [List.pairwise_iff_forall_sublist]
  intro a b hab
  have hfirst' := List.pairwise_iff_forall_sublist.mp
    (hfirst.pairwise_mergeSort hinner) hab
  intro hgt
  rcases Ordering.then_eq_gt.mp hgt with hgt | ⟨heq, hgt⟩
  · exact hfirst' hgt
  · have ha : P a :=
      hinner a (List.mem_mergeSort.mp (hab.subset List.mem_cons_self))
    have htie : [a, b].Sublist (l.mergeSort fun a b => second a b != .gt) := by
      have hfilter := hab.filter fun b => first a b == .eq
      rw [hfirst.filter_mergeSort hinner ha,
        List.filter_cons_of_pos (by simp [hfirst.refl ha]),
        List.filter_cons_of_pos (by simp [heq])] at hfilter
      exact hfilter.trans List.filter_sublist
    exact List.pairwise_iff_forall_sublist.mp (hsecond.pairwise_mergeSort hl)
      htie hgt

/-- The ties of two comparisons are the ties of the second among those of the
first. -/
theorem filter_then (first second : α → α → Ordering) (a : α) (l : List α) :
    (l.filter fun b => (first a b).then (second a b) == .eq) =
      (l.filter fun b => first a b == .eq).filter fun b =>
        second a b == .eq := by
  rw [List.filter_filter]
  refine List.filter_congr fun b _ => ?_
  rw [Bool.eq_iff_iff]
  simp only [beq_iff_eq, Bool.and_eq_true, Ordering.then_eq_eq]
  exact and_comm

/-- Sorting by two comparisons, the second for the ties of the first, is
sorting by the second and then by the first. -/
theorem mergeSort_lex (hfirst : OrdersOn P first) (hsecond : OrdersOn P second)
    (hl : ∀ a ∈ l, P a) :
    (l.mergeSort fun a b => (first a b).then (second a b) != .gt) =
      (l.mergeSort fun a b => second a b != .gt).mergeSort fun a b =>
        first a b != .gt := by
  have hlex := hfirst.lex hsecond
  have hinner : ∀ a ∈ l.mergeSort fun a b => second a b != .gt, P a :=
    fun a ha => hl a (List.mem_mergeSort.mp ha)
  refine hlex.eq_of_ties (fun a ha => hl a (List.mem_mergeSort.mp ha)) ?_
    (hlex.pairwise_mergeSort hl)
      (pairwise_mergeSort_mergeSort hfirst hsecond hl) ?_
  · exact (List.mergeSort_perm _ _).trans
      ((List.mergeSort_perm _ _).trans (List.mergeSort_perm _ _)).symm
  · intro a ha
    have ha : P a := hl a (List.mem_mergeSort.mp ha)
    calc ((l.mergeSort fun a b => (first a b).then (second a b) != .gt).filter
          fun b => (first a b).then (second a b) == .eq)
        = (l.filter fun b => first a b == .eq).filter fun b =>
          second a b == .eq := by
          rw [hlex.filter_mergeSort hl ha, filter_then]
      _ = ((l.mergeSort fun a b => second a b != .gt).filter fun b =>
          first a b == .eq).filter
            fun b => second a b == .eq := by
          rw [List.filter_comm, ← hsecond.filter_mergeSort hl ha,
            List.filter_comm]
      _ = _ := by
          rw [filter_then, hfirst.filter_mergeSort hinner ha]

end Lists

end OrdersOn

end ReportQuery
