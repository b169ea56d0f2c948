import Mathlib.Data.List.Forall2
import Mathlib.Data.List.Induction

/-!
# Computations that may fail

When a computation made of others gives a value: each of its parts does. Where
the faults of the parts are known beforehand, the first of them is the fault of
the whole.
-/

namespace Except

variable {ε α β γ : Type}

/-! ## Values and faults -/

@[simp] theorem ok_map (f : α → β) (a : α) :
    (ok a : Except ε α).map f = ok (f a) := rfl

@[simp] theorem error_map (f : α → β) (e : ε) :
    (error e : Except ε α).map f = error e := rfl

@[simp] theorem ok_bind (a : α) (f : α → Except ε β) :
    (ok a : Except ε α).bind f = f a := rfl

@[simp] theorem error_bind (e : ε) (f : α → Except ε β) :
    (error e : Except ε α).bind f = error e := rfl

@[simp] theorem ok_mapError (f : ε → γ) (a : α) :
    (ok a : Except ε α).mapError f = ok a := rfl

@[simp] theorem error_mapError (f : ε → γ) (e : ε) :
    (error e : Except ε α).mapError f = error (f e) := rfl

@[simp] theorem ok_toOption (a : α) :
    (ok a : Except ε α).toOption = some a := rfl

@[simp] theorem error_toOption (e : ε) :
    (error e : Except ε α).toOption = none := rfl

/-! ## Computations made of others -/

theorem map_eq_ok_iff {f : α → β} {x : Except ε α} {b : β} :
    x.map f = .ok b ↔ ∃ a, x = .ok a ∧ f a = b := by
  cases x <;> simp

theorem bind_eq_ok_iff {x : Except ε α} {f : α → Except ε β} {b : β} :
    x.bind f = .ok b ↔ ∃ a, x = .ok a ∧ f a = .ok b := by
  cases x <;> simp

theorem mapError_eq_ok_iff {f : ε → γ} {x : Except ε α} {a : α} :
    x.mapError f = .ok a ↔ x = .ok a := by
  cases x <;> simp

/-- A computation on every entry of a list gives a list, entry by entry. -/
theorem mapM_eq_ok_iff {f : α → Except ε β} {xs : List α} {ys : List β} :
    xs.mapM f = .ok ys ↔ List.Forall₂ (fun x y => f x = .ok y) xs ys := by
  induction xs generalizing ys with
  | nil =>
      cases ys <;> simp [pure, Except.pure]
  | cons x xs ih =>
      rw [List.mapM_cons]
      change (f x).bind (fun y => (xs.mapM f).bind fun ys => .ok (y :: ys)) =
        .ok ys ↔ _
      rw [bind_eq_ok_iff, List.forall₂_cons_left_iff]
      constructor
      · rintro ⟨y, hy, hrest⟩
        obtain ⟨tail, htail, hys⟩ := bind_eq_ok_iff.mp hrest
        exact ⟨y, tail, hy, ih.mp htail, (Except.ok.inj hys).symm⟩
      · rintro ⟨y, tail, hy, htail, rfl⟩
        exact ⟨y, hy, bind_eq_ok_iff.mpr ⟨tail, ih.mpr htail, rfl⟩⟩

theorem map_map (f : α → β) (g : β → γ) (x : Except ε α) :
    (x.map f).map g = x.map fun a => g (f a) := by
  cases x <;> rfl

/-- A function of what a computation goes on to give depends on what is given
up to another. -/
theorem map_bind_congr {δ : Type} {x y : Except ε α} {f : α → Except ε β}
    {look : α → γ} {seen : β → δ}
    (hstep : ∀ a b, look a = look b → (f a).map seen = (f b).map seen)
    (h : x.map look = y.map look) :
    (x.bind f).map seen = (y.bind f).map seen := by
  cases x with
  | error e =>
      cases y with
      | error e' => exact congrArg error (error.inj h)
      | ok b => cases h
  | ok a =>
      cases y with
      | error e' => cases h
      | ok b => exact hstep a b (ok.inj h)

theorem mapM_congr {f g : α → Except ε β} {xs : List α}
    (h : ∀ x ∈ xs, f x = g x) : xs.mapM f = xs.mapM g := by
  induction xs with
  | nil => rfl
  | cons x xs ih =>
      rw [List.mapM_cons, List.mapM_cons, h x List.mem_cons_self,
        ih fun y hy => h y (List.mem_cons_of_mem x hy)]

theorem mapM_map (f : α → Except ε β) (g : β → γ) (xs : List α) :
    (xs.mapM fun x => (f x).map g) = (xs.mapM f).map (List.map g) := by
  induction xs with
  | nil => rfl
  | cons x xs ih =>
      rw [List.mapM_cons, List.mapM_cons, ih]
      cases f x with
      | error e => rfl
      | ok y => cases xs.mapM f <;> rfl

theorem map_eq_error_iff {f : α → β} {x : Except ε α} {e : ε} :
    x.map f = .error e ↔ x = .error e := by
  cases x <;> simp

theorem mapM_eq_error_iff {f : α → Except ε β} {fault? : α → Option ε}
    {xs : List α} (h : ∀ x ∈ xs, ∀ e, f x = .error e ↔ fault? x = some e)
    {e : ε} : xs.mapM f = .error e ↔ xs.findSome? fault? = some e := by
  induction xs with
  | nil => simp [pure, Except.pure]
  | cons x xs ih =>
      have htail := ih fun y hy => h y (List.mem_cons_of_mem x hy)
      have hhead := h x List.mem_cons_self
      rw [List.mapM_cons, List.findSome?_cons]
      change (f x).bind (fun y => (xs.mapM f).bind fun ys => .ok (y :: ys)) =
        .error e ↔ _
      cases hx : f x with
      | error e' => simp [(hhead e').mp hx]
      | ok y =>
          have hnone : fault? x = none := by
            rw [Option.eq_none_iff_forall_ne_some]
            intro e' he'
            simp [(hhead e').mpr he'] at hx
          rw [hnone]
          change (xs.mapM f).bind (fun ys => .ok (y :: ys)) = .error e ↔ _
          rw [← htail]
          cases xs.mapM f <;> simp

/-- A fold keeps what each of its steps keeps, and fails at the first entry
with a fault, when the faults of the entries do not depend on what is kept. -/
theorem foldlM_spec {f : β → α → Except ε β} {fault? : α → Option ε}
    {start : β} (Holds : List α → β → Prop) (hstart : Holds [] start)
    (herror : ∀ seen state a, Holds seen state → ∀ e, f state a = .error e ↔
      fault? a = some e)
    (hstep : ∀ seen state a state', Holds seen state → f state a = .ok state' →
      Holds (seen ++ [a]) state')
    (xs : List α) :
    (∀ e, xs.foldlM f start = .error e ↔ xs.findSome? fault? = some e) ∧
      ∀ state, xs.foldlM f start = .ok state → Holds xs state := by
  induction xs using List.reverseRecOn with
  | nil =>
      exact ⟨by simp [pure, Except.pure],
        fun state h => Except.ok.inj h ▸ hstart⟩
  | append_singleton seen a ih =>
      have hlast : (seen ++ [a]).foldlM f start =
          (seen.foldlM f start).bind fun s => f s a := by
        simp only [List.foldlM_append, List.foldlM_cons,
          List.foldlM_nil, bind_pure]
        rfl
      rw [hlast, List.findSome?_append, List.findSome?_singleton]
      cases hseen : seen.foldlM f start with
      | error e' => simp [(ih.1 e').mp hseen]
      | ok state =>
          have hholds := ih.2 state hseen
          have hnone : seen.findSome? fault? = none := by
            rw [Option.eq_none_iff_forall_ne_some]
            intro e' he'
            simp [(ih.1 e').mpr he'] at hseen
          rw [hnone]
          exact ⟨herror seen state a hholds,
            fun state' => hstep seen state a state' hholds⟩

end Except

/-- Leaving out the value that stands in for nothing changes nothing. -/
theorem Option.getD_filter_ne {α : Type} [BEq α] [LawfulBEq α]
    (o : Option α) (a : α) : (o.filter fun b => b != a).getD a = o.getD a := by
  cases o with
  | none => rfl
  | some b =>
      by_cases hb : b = a
      · simp [Option.filter, hb]
      · simp [Option.filter, hb]

