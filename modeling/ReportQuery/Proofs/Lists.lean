import Mathlib.Data.List.Forall2
import Mathlib.Data.List.Induction
import Mathlib.Data.List.Nodup

/-!
# Lists

Lists that are related entry by entry, and lists without repetitions: keeping
the first of equal entries, and where an entry stands.
-/

namespace List

/-! ## Related entries -/

section Related

variable {α β γ δ ε : Type} {R : α → β → Prop} {xs : List α} {ys : List β}

theorem exists_left_of_forall₂ (h : Forall₂ R xs ys) {y : β} (hy : y ∈ ys) :
    ∃ x ∈ xs, R x y := by
  induction h with
  | nil => simp at hy
  | @cons x _ _ _ hxy _ ih =>
      rcases mem_cons.mp hy with rfl | hrest
      · exact ⟨x, by simp, hxy⟩
      · obtain ⟨x', hx', hR⟩ := ih hrest
        exact ⟨x', by simp [hx'], hR⟩

theorem exists_right_of_forall₂ (h : Forall₂ R xs ys) {x : α} (hx : x ∈ xs) :
    ∃ y ∈ ys, R x y :=
  exists_left_of_forall₂ h.flip hx

theorem exists_forall₂_iff :
    (∃ ys, Forall₂ R xs ys) ↔ ∀ x ∈ xs, ∃ y, R x y := by
  constructor
  · rintro ⟨ys, h⟩ x hx
    obtain ⟨y, -, hxy⟩ := exists_right_of_forall₂ h hx
    exact ⟨y, hxy⟩
  · intro h
    induction xs with
    | nil => exact ⟨[], .nil⟩
    | cons x xs ih =>
        obtain ⟨y, hy⟩ := h x mem_cons_self
        obtain ⟨ys, hys⟩ := ih fun x' hx' => h x' (mem_cons_of_mem x hx')
        exact ⟨y :: ys, .cons hy hys⟩

theorem exists_forall₂_and_iff {P : β → Prop} :
    (∃ ys, Forall₂ R xs ys ∧ ∀ y ∈ ys, P y) ↔ ∀ x ∈ xs, ∃ y, P y ∧ R x y := by
  rw [← exists_forall₂_iff]
  constructor
  · rintro ⟨ys, h, hP⟩
    exact ⟨ys, ((forall₂_and_left ys xs).mpr ⟨hP, h.flip⟩).flip⟩
  · rintro ⟨ys, h⟩
    obtain ⟨hP, hR⟩ := (forall₂_and_left ys xs).mp h.flip
    exact ⟨ys, hR.flip, hP⟩

theorem exists_mem_zip_of_forall₂ (h : Forall₂ R xs ys) {x : α} (hx : x ∈ xs) :
    ∃ y, (x, y) ∈ xs.zip ys ∧ R x y := by
  induction h with
  | nil => simp at hx
  | @cons x' y' _ _ hxy _ ih =>
      rcases mem_cons.mp hx with rfl | hrest
      · exact ⟨y', by simp, hxy⟩
      · obtain ⟨y, hy, hR⟩ := ih hrest
        exact ⟨y, mem_cons_of_mem _ hy, hR⟩

theorem zipWith_congr_of_forall₂ {f g : α → β → γ} (h : Forall₂ R xs ys)
    (hfg : ∀ x y, R x y → f x y = g x y) :
    zipWith f xs ys = zipWith g xs ys := by
  induction h with
  | nil => rfl
  | cons hxy _ ih => rw [zipWith_cons_cons, zipWith_cons_cons, hfg _ _ hxy, ih]

theorem forall₂_zipWith {S : α → γ → Prop} {f : α → β → γ} (h : Forall₂ R xs ys)
    (hf : ∀ x y, R x y → S x (f x y)) : Forall₂ S xs (zipWith f xs ys) := by
  induction h with
  | nil => exact .nil
  | cons hxy _ ih => exact .cons (hf _ _ hxy) ih

/-- Entries that are read one by one are read together. -/
theorem mapM_map_of_some {f : α → β} {g : β → Option γ} {k : α → γ}
    (h : ∀ x ∈ xs, g (f x) = some (k x)) :
    (xs.map f).mapM g = some (xs.map k) := by
  induction xs with
  | nil => rfl
  | cons x rest ih =>
      have hrest := ih fun y hy => h y (mem_cons_of_mem x hy)
      simp [h x mem_cons_self, hrest]

theorem mapM_map_self {f : α → β} {g : β → Option α}
    (h : ∀ x ∈ xs, g (f x) = some x) : (xs.map f).mapM g = some xs := by
  simpa using mapM_map_of_some h

theorem zipWith_zipWith_map (f : γ → δ → ε) (g : α → β → γ) (k : β → δ)
    (xs : List α) (ys : List β) :
    zipWith f (zipWith g xs ys) (ys.map k) =
      zipWith (fun x y => f (g x y) (k y)) xs ys := by
  induction xs generalizing ys with
  | nil => simp
  | cons x rest ih =>
      cases ys with
      | nil => rfl
      | cons y ys => simp [ih]

theorem forall₂_comp {S : β → γ → Prop} {T : α → γ → Prop} {zs : List γ}
    (h : Forall₂ R xs ys) (h' : Forall₂ S ys zs)
    (hcomp : ∀ x y z, R x y → S y z → T x z) : Forall₂ T xs zs := by
  induction h generalizing zs with
  | nil =>
      cases h'
      exact .nil
  | cons hxy _ ih =>
      cases h' with
      | cons hyz hrest => exact .cons (hcomp _ _ _ hxy hyz) (ih hrest)

/-- A list related to the entries of several lists is cut into lists related to
each of them. -/
theorem exists_flatten_of_forall₂ {blocks : List (List α)}
    (h : Forall₂ R blocks.flatten ys) :
    ∃ cut, Forall₂ (Forall₂ R) blocks cut ∧ cut.flatten = ys := by
  induction blocks generalizing ys with
  | nil =>
      rw [flatten_nil, forall₂_nil_left_iff] at h
      exact ⟨[], .nil, h.symm⟩
  | cons block rest ih =>
      have hflip : Forall₂ (flip R) ys (block ++ rest.flatten) := h.flip
      have hblock : Forall₂ R block (ys.take block.length) :=
        (forall₂_take_append ys block rest.flatten hflip).flip
      have hrest : Forall₂ R rest.flatten (ys.drop block.length) :=
        (forall₂_drop_append ys block rest.flatten hflip).flip
      obtain ⟨cut, hcut, hflatten⟩ := ih hrest
      refine ⟨ys.take block.length :: cut, .cons hblock hcut, ?_⟩
      rw [flatten_cons, hflatten, take_append_drop]

theorem forall₂_imp_of_mem {S : α → β → Prop} (h : Forall₂ R xs ys)
    (himp : ∀ x ∈ xs, ∀ y ∈ ys, R x y → S x y) : Forall₂ S xs ys := by
  induction h with
  | nil => exact .nil
  | cons hxy _ ih =>
      refine .cons (himp _ mem_cons_self _ mem_cons_self hxy) (ih ?_)
      intro x hx y hy
      exact himp x (mem_cons_of_mem _ hx) y (mem_cons_of_mem _ hy)

/-- When every entry is kept, what is seen of those that are kept is seen of
all. -/
theorem map_filterMap_of_eq_some {f : α → Option β} {g : β → γ} {seen : α → γ}
    (h : ∀ x ∈ xs, (f x).map g = some (seen x)) :
    (xs.filterMap f).map g = xs.map seen := by
  rw [map_filterMap, filterMap_congr h]
  exact congrFun filterMap_eq_map xs

theorem ne_nil_of_map_eq_map {f : α → γ} {g : β → γ} (h : xs.map f = ys.map g)
    (hne : ys ≠ []) : xs ≠ [] := by
  rintro rfl
  exact hne (map_eq_nil_iff.mp h.symm)

theorem forall₂_of_map_eq_map {f : α → γ} {g : β → γ}
    (h : xs.map f = ys.map g) : Forall₂ (fun x y => f x = g y) xs ys := by
  rw [← forall₂_eq_eq_eq, forall₂_map_left_iff, forall₂_map_right_iff] at h
  exact h

theorem length_flatten_take_of_forall₂ {blocks : List (List α)}
    {cut : List (List β)} (h : Forall₂ (Forall₂ R) blocks cut) (n : Nat) :
    (cut.take n).flatten.length = (blocks.take n).flatten.length :=
  (rel_flatten (forall₂_take n h)).length_eq.symm

end Related

/-- The first entry of a list of several stands right after the lists before. -/
theorem getElem?_flatten_of_getElem? {α : Type} {blocks : List (List α)}
    {n : Nat} {first : α} {rest : List α}
    (h : blocks[n]? = some (first :: rest)) :
    blocks.flatten[(blocks.take n).flatten.length]? = some first := by
  obtain ⟨hlt, hblock⟩ := getElem?_eq_some_iff.mp h
  have hsplit : blocks.flatten =
      (blocks.take n).flatten ++
      first :: (rest ++ (blocks.drop (n + 1)).flatten) := by
    calc blocks.flatten
      _ = (blocks.take n ++ blocks.drop n).flatten := by rw [take_append_drop]
      _ = _ := by
        rw [drop_eq_getElem_cons hlt, hblock, flatten_append, flatten_cons,
          cons_append]
  rw [hsplit, getElem?_append_right (Nat.le_refl _), Nat.sub_self]
  rfl

/-- Where one place alone passes a test, its entry is all that is left. -/
theorem filter_eq_singleton {α : Type} {p : α → Bool} {xs : List α}
    {i : Nat} {a : α} (ha : xs[i]? = some a) (hp : p a = true)
    (hothers : ∀ (j : Nat) (b : α), xs[j]? = some b → j ≠ i → p b = false) :
    xs.filter p = [a] := by
  induction xs generalizing i with
  | nil => simp at ha
  | cons x rest ih =>
      cases i with
      | zero =>
          obtain rfl : x = a := by simpa using ha
          have hrest : rest.filter p = [] := by
            rw [filter_eq_nil_iff]
            intro b hb
            obtain ⟨j, hj, rfl⟩ := mem_iff_getElem.mp hb
            simp [hothers (j + 1) rest[j] (by simp) (Nat.succ_ne_zero j)]
          rw [filter_cons_of_pos hp, hrest]
      | succ i =>
          have hx : p x = false := hothers 0 x rfl (Nat.succ_ne_zero i).symm
          rw [filter_cons_of_neg (by simp [hx])]
          refine ih ha fun j b hb hne => ?_
          exact hothers (j + 1) b hb fun heq => hne (Nat.succ.inj heq)

/-! ## The first of equal entries -/

theorem eq_nil_iff_of_eraseDups_eq {l m : List Nat}
    (h : l.eraseDups = m.eraseDups) : l = [] ↔ m = [] := by
  have hmem : ∀ n, n ∈ l ↔ n ∈ m := by
    intro n
    rw [← mem_eraseDups, h, mem_eraseDups]
  simp only [eq_nil_iff_forall_not_mem, hmem]

section Append

variable {α : Type} [BEq α] [LawfulBEq α] {l : List α} {a : α}

theorem eraseDups_append_of_mem (h : a ∈ l) :
    (l ++ [a]).eraseDups = l.eraseDups := by
  have hremoved : [a].removeAll l = [] := by simp [removeAll, h]
  rw [eraseDups_append, hremoved, eraseDups_nil, append_nil]

theorem eraseDups_append_of_not_mem (h : a ∉ l) :
    (l ++ [a]).eraseDups = l.eraseDups ++ [a] := by
  have hkept : [a].removeAll l = [a] := by simp [removeAll, h]
  rw [eraseDups_append, hkept]
  simp [eraseDups_cons]

/-- The place of a new entry is behind those before it. -/
theorem idxOf_eraseDups_append (l m : List α) (a : α) :
    (l ++ a :: m).eraseDups.idxOf a = l.eraseDups.idxOf a := by
  rw [eraseDups_append]
  by_cases ha : a ∈ l
  · exact idxOf_append_of_mem (mem_eraseDups.mpr ha)
  · have ha' : a ∉ l.eraseDups := mt mem_eraseDups.mp ha
    have hkept : (a :: m).removeAll l = a :: m.removeAll l := by
      simp [removeAll, ha]
    rw [hkept, eraseDups_cons, idxOf_append_of_notMem ha', idxOf_cons_self,
      idxOf_eq_length ha', Nat.add_zero]

end Append

theorem eraseDups_eraseDups {α : Type} [BEq α] [LawfulBEq α] (l : List α) :
    l.eraseDups.eraseDups = l.eraseDups := by
  induction l using List.reverseRecOn with
  | nil => rfl
  | append_singleton l a ih =>
      by_cases ha : a ∈ l
      · rw [eraseDups_append_of_mem ha, ih]
      · have ha' : a ∉ l.eraseDups := mt mem_eraseDups.mp ha
        rw [eraseDups_append_of_not_mem ha, eraseDups_append_of_not_mem ha', ih]

theorem nodup_eraseDups {α : Type} [BEq α] [LawfulBEq α] (l : List α) :
    l.eraseDups.Nodup := by
  induction l using List.reverseRecOn with
  | nil => exact nodup_nil
  | append_singleton l a ih =>
      by_cases ha : a ∈ l
      · rw [eraseDups_append_of_mem ha]
        exact ih
      · rw [eraseDups_append_of_not_mem ha, nodup_append]
        refine ⟨ih, nodup_singleton a, ?_⟩
        rintro b hb c hc rfl
        exact ha (mem_singleton.mp hc ▸ mem_eraseDups.mp hb)

/-- The first of equal entries stand in the order of their first places. -/
theorem pairwise_idxOf_eraseDups {α : Type} [BEq α] [LawfulBEq α] (l : List α) :
    l.eraseDups.Pairwise fun a b => l.idxOf a < l.idxOf b := by
  induction l using List.reverseRecOn with
  | nil => exact .nil
  | append_singleton l a ih =>
      have hkept : l.eraseDups.Pairwise fun b c => (l ++ [a]).idxOf b <
          (l ++ [a]).idxOf c := by
        refine ih.imp_of_mem fun {b c} hb hc hlt => ?_
        rwa [idxOf_append_of_mem (mem_eraseDups.mp hb),
          idxOf_append_of_mem (mem_eraseDups.mp hc)]
      by_cases ha : a ∈ l
      · rwa [eraseDups_append_of_mem ha]
      · rw [eraseDups_append_of_not_mem ha, pairwise_append]
        refine ⟨hkept, pairwise_singleton _ a, ?_⟩
        intro b hb c hc
        obtain rfl := mem_singleton.mp hc
        have hb' := mem_eraseDups.mp hb
        rw [idxOf_append_of_mem hb', idxOf_append_of_notMem ha]
        exact Nat.lt_of_lt_of_le (idxOf_lt_length_of_mem hb')
          (Nat.le_add_right _ _)

section Map

variable {α β : Type} [BEq α] [LawfulBEq α] [BEq β] [LawfulBEq β] {f : α → β}

/-- A function that tells the entries of a list apart commutes with keeping the
first of equals. -/
theorem eraseDups_map {l : List α} (h : ∀ a ∈ l, ∀ b ∈ l, f a = f b → a = b) :
    (l.map f).eraseDups = l.eraseDups.map f := by
  induction l using List.reverseRecOn with
  | nil => rfl
  | append_singleton l a ih =>
      have hinit := ih fun b hb c hc => h b (by simp [hb]) c (by simp [hc])
      rw [map_append, map_singleton]
      by_cases ha : a ∈ l
      · rw [eraseDups_append_of_mem ha,
          eraseDups_append_of_mem (mem_map_of_mem ha), hinit]
      · have ha' : f a ∉ l.map f := by
          intro hmem
          obtain ⟨b, hb, hfb⟩ := mem_map.mp hmem
          exact ha (h b (by simp [hb]) a (by simp) hfb ▸ hb)
        rw [eraseDups_append_of_not_mem ha, eraseDups_append_of_not_mem ha',
          hinit, map_append, map_singleton]

/-- An entry keeps its place when a function tells it from the entries
before. -/
theorem idxOf_map {l : List α} {a : α} (h : ∀ b ∈ l, f b = f a → b = a) :
    (l.map f).idxOf (f a) = l.idxOf a := by
  induction l with
  | nil => rfl
  | cons b rest ih =>
      have hrest := ih fun c hc => h c (by simp [hc])
      rw [map_cons, idxOf_cons, idxOf_cons, hrest]
      by_cases hb : b = a
      · rw [hb, beq_self_eq_true, beq_self_eq_true]
      · have hf : f b ≠ f a := fun heq => hb (h b (by simp) heq)
        rw [beq_eq_false_iff_ne.mpr hf, beq_eq_false_iff_ne.mpr hb]

end Map

theorem findIdx?_getElem_of_nodup {α : Type} [BEq α] [LawfulBEq α] {l : List α}
    (h : l.Nodup) {i : Nat} (hi : i < l.length) :
    l.findIdx? (· == l[i]) = some i := by
  rw [findIdx?_eq_some_iff_getElem]
  refine ⟨hi, by simp, ?_⟩
  intro j hj
  have hne : l[j] ≠ l[i] := by
    intro heq
    have hji := (getElem_inj h).mp heq
    omega
  simpa using hne

end List
