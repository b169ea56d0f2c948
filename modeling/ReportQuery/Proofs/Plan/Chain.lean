import ReportQuery.Proofs.Catalog.StoredView
import ReportQuery.Proofs.Plan.Alike

/-!
# Chains of views

A statement is unfolded along the chain of views that starts at its source.
Unfolding depends on the chain alone: more tests than there are views change
nothing, a table under a name that the chain does not reach changes nothing,
and a chain that runs into a missing table fails however it is closed.
-/

namespace ReportQuery

namespace Catalog

/-- From a name on, at most `n` views are passed before a name that is no
view's. -/
def ViewsBelow (catalog : Catalog) : Nat → String → Prop
  | 0, name => ∀ table, catalog.table? name = some table → table.view = none
  | n + 1, name => ∀ table view, catalog.table? name = some table →
      table.view = some view → catalog.ViewsBelow n view.source

/-- The views from a name on lead to another name. -/
inductive LeadsTo (catalog : Catalog) (goal : String) : String → Prop where
  | here : LeadsTo catalog goal goal
  | step {name : String} {table : Table} {view : View} :
      catalog.table? name = some table → table.view = some view →
        LeadsTo catalog goal view.source → LeadsTo catalog goal name

end Catalog

namespace Plan

/-! ## One test for a view -/

/-- A statement unfolds to itself on a report, and to its merged statement
unfolded on a view. -/
theorem unfoldWithin_succ_eq_ok_iff {catalog : Catalog} {today : Day}
    {depth : Nat} {s r : Select} :
    unfoldWithin catalog today (depth + 1) s = .ok r ↔
      ∃ table, catalog.table? s.source = some table ∧
        (table.view = none ∧ r = s ∨
          ∃ view merged, table.view = some view ∧
            merge today s table view = .ok merged ∧
            unfoldWithin catalog today depth merged = .ok r) := by
  simp only [unfoldWithin]
  cases htable : catalog.table? s.source with
  | none => simp
  | some table =>
      cases hview : table.view with
      | none => simp [hview, eq_comm]
      | some view => simp [hview, Except.bind_eq_ok_iff]

theorem unfoldWithin_succ_of_view {catalog : Catalog} (today : Day)
    (depth : Nat) {s : Select} {table : Table} {view : View}
    (htable : catalog.table? s.source = some table)
    (hview : table.view = some view) :
    unfoldWithin catalog today (depth + 1) s =
      (merge today s table view).bind (unfoldWithin catalog today depth) := by
  simp only [unfoldWithin, htable, hview]

theorem source_of_merge {today : Day} {s r : Select} {table : Table}
    {view : View} (h : merge today s table view = .ok r) :
    r.source = view.source := by
  obtain ⟨blocks, conditions, during, -, -, -, rfl⟩ := merge_eq_ok_iff.mp h
  rfl

/-! ## Whole chains -/

/-- What every merge along a chain keeps holds of the unfolded statement, and
that is one on a report. -/
theorem unfoldWithin_induction {catalog : Catalog} {today : Day}
    (Holds : Select → Prop)
    (hstep : ∀ s table view merged, catalog.table? s.source = some table →
      table.view = some view → merge today s table view = .ok merged → Holds s →
        Holds merged) {depth : Nat} {s r : Select} (hs : Holds s)
    (h : unfoldWithin catalog today depth s = .ok r) :
    Holds r ∧ ∃ report, catalog.table? r.source = some report ∧
      report.view = none := by
  induction depth generalizing s with
  | zero => simp [unfoldWithin] at h
  | succ depth ih =>
      obtain ⟨table, htable,
          ⟨hview, rfl⟩ | ⟨view, merged, hview, hmerge, hrest⟩⟩ :=
        unfoldWithin_succ_eq_ok_iff.mp h
      · exact ⟨hs, table, htable, hview⟩
      · exact ih (hstep s table view merged htable hview hmerge hs) hrest

/-- As soon as there are more tests than views their number does not matter. -/
theorem unfoldWithin_eq_of_viewsBelow {catalog : Catalog} {n : Nat} {s : Select}
    (h : catalog.ViewsBelow n s.source) (today : Day) {d e : Nat} (hd : n < d)
    (he : n < e) :
    unfoldWithin catalog today d s = unfoldWithin catalog today e s := by
  induction n generalizing s d e with
  | zero =>
      obtain ⟨d, rfl⟩ := Nat.exists_eq_add_of_lt hd
      obtain ⟨e, rfl⟩ := Nat.exists_eq_add_of_lt he
      simp only [unfoldWithin]
      cases htable : catalog.table? s.source with
      | none => rfl
      | some table => simp [h table htable]
  | succ n ih =>
      obtain ⟨d, rfl⟩ :=
        Nat.exists_eq_add_of_lt (Nat.lt_of_le_of_lt (Nat.zero_le _) hd)
      obtain ⟨e, rfl⟩ :=
        Nat.exists_eq_add_of_lt (Nat.lt_of_le_of_lt (Nat.zero_le _) he)
      simp only [unfoldWithin]
      cases htable : catalog.table? s.source with
      | none => rfl
      | some table =>
          cases hview : table.view with
          | none => simp [hview]
          | some view =>
              simp only [hview]
              cases hmerge : merge today s table view with
              | error error => rfl
              | ok merged =>
                  have hsource : catalog.ViewsBelow n merged.source := by
                    rw [source_of_merge hmerge]
                    exact h table view htable hview
                  exact ih hsource (by omega) (by omega)

/-- Unfolding keeps the names that the entries of an aligned statement are
shown under. -/
theorem labels_of_unfoldWithin {catalog : Catalog} {today : Day} {depth : Nat}
    {s r : Select} (hs : s.Aligned)
    (h : unfoldWithin catalog today depth s = .ok r) :
    r.items.map SelectItem.label = s.items.map SelectItem.label := by
  have hkept := unfoldWithin_induction
    (fun t => t.Aligned ∧ t.items.map SelectItem.label =
      s.items.map SelectItem.label) ?_
    ⟨hs, rfl⟩ h
  · exact hkept.1.2
  · rintro t table view merged - - hmerge ⟨ht, hlabels⟩
    exact ⟨aligned_of_merge hmerge, (labels_of_merge ht hmerge).trans hlabels⟩

/-- Alike statements unfold to alike statements. -/
theorem unfoldWithin_alike {catalog : Catalog} {today : Day} {depth : Nat}
    {s t r : Select} (hs : s.Aligned) (ht : t.Aligned) (h : s.Alike t)
    (hr : unfoldWithin catalog today depth s = .ok r) :
    ∃ r', unfoldWithin catalog today depth t = .ok r' ∧ r.Alike r' := by
  induction depth generalizing s t with
  | zero => simp [unfoldWithin] at hr
  | succ depth ih =>
      obtain ⟨table, htable,
          ⟨hview, rfl⟩ | ⟨view, merged, hview, hmerge, hrest⟩⟩ :=
        unfoldWithin_succ_eq_ok_iff.mp hr
      · rw [h.source] at htable
        exact ⟨t, unfoldWithin_succ_eq_ok_iff.mpr ⟨table, htable,
          Or.inl ⟨hview, rfl⟩⟩, h⟩
      · rw [h.source] at htable
        obtain ⟨merged', hmerge', halike⟩ := merge_alike hs ht h hmerge
        obtain ⟨r', hrest', hr'⟩ :=
          ih (aligned_of_merge hmerge) (aligned_of_merge hmerge') halike hrest
        exact ⟨r', unfoldWithin_succ_eq_ok_iff.mpr
          ⟨table, htable, Or.inr ⟨view, merged', hview, hmerge', hrest'⟩⟩, hr'⟩

/-! ## A new view -/

variable {catalog : Catalog} {fresh : Table} {view : View} {today : Day}

/-- A chain that leads to a missing table fails. -/
theorem not_unfoldWithin_of_leadsTo_missing {goal : String}
    (hmissing : catalog.table? goal = none) {depth : Nat} {s r : Select}
    (h : catalog.LeadsTo goal s.source) :
    unfoldWithin catalog today depth s ≠ .ok r := by
  intro hr
  induction depth generalizing s with
  | zero => simp [unfoldWithin] at hr
  | succ depth ih =>
      obtain ⟨table, htable, hcases⟩ := unfoldWithin_succ_eq_ok_iff.mp hr
      generalize hname : s.source = name at h htable
      cases h with
      | here => simp [hmissing] at htable
      | step htable' hview' hleads =>
          obtain rfl := Option.some.inj (htable'.symm.trans htable)
          rcases hcases with ⟨hview, -⟩ | ⟨view, merged, hview, hmerge, hrest⟩
          · simp [hview'] at hview
          · obtain rfl := Option.some.inj (hview'.symm.trans hview)
            exact ih (source_of_merge hmerge ▸ hleads) hrest

/-- A view that is put where its own chain ends makes the chain a circle. -/
theorem not_unfoldWithin_of_circle (hview : fresh.view = some view)
    (hcircle : catalog.LeadsTo fresh.name view.source) {depth : Nat}
    {s r : Select} (h : catalog.LeadsTo fresh.name s.source) :
    unfoldWithin (catalog.storing fresh) today depth s ≠ .ok r := by
  intro hr
  induction depth generalizing s with
  | zero => simp [unfoldWithin] at hr
  | succ depth ih =>
      obtain ⟨table, htable, hcases⟩ := unfoldWithin_succ_eq_ok_iff.mp hr
      generalize hname : s.source = name at h htable
      have hnext : ∃ next, table.view = some next ∧
          catalog.LeadsTo fresh.name next.source := by
        rcases Catalog.table?_storing_eq_some_iff.mp htable with
          ⟨-, rfl⟩ | ⟨hne, hbefore⟩
        · exact ⟨view, hview, hcircle⟩
        · cases h with
          | here => exact absurd rfl hne
          | step htable' hview' hleads =>
              obtain rfl := Option.some.inj (htable'.symm.trans hbefore)
              exact ⟨_, hview', hleads⟩
      obtain ⟨next, hnext, hleads⟩ := hnext
      rcases hcases with ⟨hnone, -⟩ | ⟨other, merged, hother, hmerge, hrest⟩
      · simp [hnext] at hnone
      · obtain rfl := Option.some.inj (hnext.symm.trans hother)
        exact ih (source_of_merge hmerge ▸ hleads) hrest

/-- A chain that does not lead to the name of a new table stays as it is. -/
theorem unfoldWithin_storing_of_not_leadsTo {depth : Nat} {s : Select}
    (h : ¬ catalog.LeadsTo fresh.name s.source) :
    unfoldWithin (catalog.storing fresh) today depth s =
      unfoldWithin catalog today depth s := by
  induction depth generalizing s with
  | zero => rfl
  | succ depth ih =>
      have hne : s.source ≠ fresh.name := by
        intro hname
        exact h (hname ▸ .here)
      simp only [unfoldWithin, Catalog.table?_storing_other catalog hne]
      cases htable : catalog.table? s.source with
      | none => rfl
      | some table =>
          cases hview : table.view with
          | none => simp [hview]
          | some view =>
              simp only [hview]
              cases hmerge : merge today s table view with
              | error error => rfl
              | ok merged =>
                  refine ih fun hleads => h (.step htable hview ?_)
                  rwa [← source_of_merge hmerge]

/-- Statements on the source of a new view unfold as they did before. -/
theorem unfoldWithin_storing_eq_ok_iff
    (hfresh : catalog.table? fresh.name = none) (hview : fresh.view = some view)
    {depth : Nat} {s r : Select} (hs : s.source = view.source) :
    unfoldWithin (catalog.storing fresh) today depth s = .ok r ↔
      unfoldWithin catalog today depth s = .ok r := by
  by_cases hleads : catalog.LeadsTo fresh.name s.source
  · constructor
    · intro hnew
      exact absurd hnew (not_unfoldWithin_of_circle hview (hs ▸ hleads) hleads)
    · intro hold
      exact absurd hold (not_unfoldWithin_of_leadsTo_missing hfresh hleads)
  · rw [unfoldWithin_storing_of_not_leadsTo hleads]

/-- A statement on a new view unfolds to what its merged statement unfolded to
before. -/
theorem unfoldWithin_storing_of_merge
    (hfresh : catalog.table? fresh.name = none) (hview : fresh.view = some view)
    {depth : Nat} {s merged r : Select} (hs : s.source = fresh.name)
    (hmerge : merge today s fresh view = .ok merged) :
    unfoldWithin (catalog.storing fresh) today (depth + 1) s = .ok r ↔
      unfoldWithin catalog today depth merged = .ok r := by
  have hfound := Catalog.table?_storing_same catalog fresh
  rw [← unfoldWithin_storing_eq_ok_iff hfresh hview (source_of_merge hmerge),
    unfoldWithin_succ_eq_ok_iff, hs]
  constructor
  · rintro ⟨table, htable, hcases⟩
    obtain rfl := Option.some.inj (hfound.symm.trans htable)
    rcases hcases with ⟨hnone, -⟩ | ⟨other, merged', hother, hmerge', hrest⟩
    · simp [hview] at hnone
    · obtain rfl := Option.some.inj (hview.symm.trans hother)
      obtain rfl := Except.ok.inj (hmerge.symm.trans hmerge')
      exact hrest
  · intro h
    exact ⟨fresh, hfound, Or.inr ⟨view, merged, hview, hmerge, h⟩⟩

/-- A statement on a view of a report unfolds by merging once. -/
theorem unfold_storedView {catalog catalog' : Catalog} {create : CreateView}
    {source : Table}
    (hsource : catalog.table? create.select.source = some source)
    (hbase : source.view = none) (hadd : catalog.addView create = .ok catalog')
    {s r : Select} (hs : s.source = create.name)
    (hr : unfold catalog' today s = .ok r) :
    ∃ blocks, create.Describes source blocks ∧
      catalog'.table? create.name = some (create.table source blocks) ∧
      merge today s (create.table source blocks) (create.clauses source) =
        .ok r := by
  have hkept := Catalog.table?_of_addView hadd hsource hbase
  have hname := Catalog.name_of_table? hsource
  obtain ⟨-, source', blocks, hsource', hdescribes, rfl⟩ :=
    Catalog.addView_eq_ok_iff.mp hadd
  obtain rfl := Option.some.inj (hsource.symm.trans hsource')
  have hfound := Catalog.table?_storing_same catalog
    (create.table source blocks)
  refine ⟨blocks, hdescribes, hfound, ?_⟩
  obtain ⟨table, htable, hcases⟩ := unfoldWithin_succ_eq_ok_iff.mp hr
  rw [hs] at htable
  obtain rfl := Option.some.inj (hfound.symm.trans htable)
  rcases hcases with ⟨hnone, -⟩ | ⟨view, merged, hview, hmerge, hrest⟩
  · simp [CreateView.table] at hnone
  · obtain rfl := Option.some.inj hview
    obtain ⟨report, hreport, hreportCases⟩ :=
      unfoldWithin_succ_eq_ok_iff.mp hrest
    rw [source_of_merge hmerge] at hreport
    change Catalog.table? _ source.name = _ at hreport
    rw [hname] at hreport
    obtain rfl := Option.some.inj (hkept.symm.trans hreport)
    rcases hreportCases with ⟨-, rfl⟩ | ⟨view, -, hview, -, -⟩
    · exact hmerge
    · simp [hbase] at hview

end Plan

end ReportQuery
