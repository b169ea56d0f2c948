import ReportQuery.Proofs.Plan.Conditions

/-!
# Days along a chain of views

A DURING clause allows the days of its span, that of a named range being told
by the current day, and every day is allowed where there is no clause. Going
down a chain of views, an unfolded statement allows the days that the statement
and all views of the chain allow, whichever of the clauses are named, written
out or missing. Clauses are refused only when they allow no day together;
clauses that do allow one are merged into a span that is in order.
-/

namespace ReportQuery.Plan

/-- Whether a clause allows a day. -/
def Allows (today : Day) (during : Option During) (day : Day) : Prop :=
  ∀ clause ∈ during, (resolveDays today clause).Contains day

theorem allows_iff_isDuring {today : Day} {during : Option During}
    (record : DayRecord) :
    Allows today during record.day ↔ record.isDuring today during = true := by
  cases during with
  | none => simp [Allows, DayRecord.isDuring]
  | some clause => simp [Allows, DayRecord.isDuring, DaySpan.Contains]

/-! ## One view -/

theorem allows_mergeDuring {today : Day} {own shown during : Option During}
    (h : mergeDuring today own shown = .ok during) (day : Day) :
    Allows today during day ↔
      Allows today own day ∧ Allows today shown day := by
  have hrecord := isDuring_mergeDuring h ⟨day, fun _ => ""⟩
  have hallows : ∀ clause, Allows today clause day ↔
      DayRecord.isDuring today ⟨day, fun _ => ""⟩ clause = true :=
    fun clause => allows_iff_isDuring ⟨day, fun _ => ""⟩
  rw [hallows, hallows, hallows, hrecord, Bool.and_eq_true]

/-- Two clauses are there, and they do not meet, when merging is refused. -/
theorem mergeDuring_eq_error {today : Day} {own shown : Option During}
    {error : QueryError} (h : mergeDuring today own shown = .error error) :
    ∃ asked allowed, own = some asked ∧ shown = some allowed ∧
      error = .outOfScope (.disjointDays asked allowed) ∧
      ¬ (resolveDays today asked).Meets (resolveDays today allowed) := by
  cases own with
  | none => simp [mergeDuring] at h
  | some asked =>
      cases shown with
      | none => simp [mergeDuring] at h
      | some allowed =>
          rcases mergeDuring_cases today asked allowed with
            ⟨-, merged, hmerged, -⟩ | ⟨hapart, hrefused⟩
          · simp [hmerged] at h
          · rw [hrefused] at h
            exact ⟨asked, allowed, rfl, rfl, (Except.error.inj h).symm, hapart⟩

/-- Clauses that allow a day together are merged, and the merged span is in
order. -/
theorem exists_mergeDuring_of_contains {today day : Day}
    {asked allowed : During} (hasked : (resolveDays today asked).Contains day)
    (hallowed : (resolveDays today allowed).Contains day) :
    ∃ merged, mergeDuring today (some asked) (some allowed) =
      .ok (some merged) ∧ (resolveDays today merged).Ordered := by
  have hmeet := DaySpan.meets_of_contains hasked hallowed
  rcases mergeDuring_cases today asked allowed with ⟨-, merged,
    hmerged, hdays⟩ | ⟨hapart, -⟩
  · refine ⟨merged, hmerged, ?_⟩
    rw [hdays]
    exact DaySpan.ordered_of_contains
      (DaySpan.contains_common_iff.mpr ⟨hasked, hallowed⟩)
  · exact absurd hmeet hapart

/-! ## Whole chains -/

theorem allows_unfoldWithin_iff {catalog : Catalog} {today : Day} {depth : Nat}
    {s r : Select} (h : unfoldWithin catalog today depth s = .ok r) :
    ∃ path, catalog.ViewPath s.source path r.source ∧
      ∀ day, Allows today r.during day ↔
        Allows today s.during day ∧
          ∀ table ∈ path, ∀ view ∈ table.view,
            Allows today view.during day := by
  refine unfoldWithin_viewPath (fun path s => ∀ day, Allows today r.during day ↔
    Allows today s.during day ∧
      ∀ table ∈ path, ∀ view ∈ table.view, Allows today view.during day) ?_ ?_ h
  · simp
  · intro s table view merged path hview hmerge hdays day
    obtain ⟨blocks, conditions, during, -, -, hduring, rfl⟩ :=
      merge_eq_ok_iff.mp hmerge
    have hshown : (∀ other ∈ table.view, Allows today other.during day) ↔
        Allows today view.during day := by
      simp [hview]
    rw [hdays, allows_mergeDuring hduring, List.forall_mem_cons,
      hshown, and_assoc]

/-- The days of an unfolded statement are those that the statement and every
view of its chain allow. At one view merging is refused only when no day is
allowed by both clauses, and clauses that allow a day together are merged into
a span in order. -/
theorem days_of_unfold (catalog : Catalog) (today : Day) (s : Select) :
    (∀ r, unfold catalog today s = .ok r →
      ∃ path, catalog.ViewPath s.source path r.source ∧
        ∀ day, Allows today r.during day ↔
          Allows today s.during day ∧
            ∀ table ∈ path, ∀ view ∈ table.view, Allows today view.during day) ∧
      (∀ own shown error, mergeDuring today own shown = .error error →
        (∃ asked allowed, own = some asked ∧ shown = some allowed ∧
          error = .outOfScope (.disjointDays asked allowed)) ∧
        ∀ day, ¬ (Allows today own day ∧ Allows today shown day)) ∧
      ∀ asked allowed : During,
        (∃ day, (resolveDays today asked).Contains day ∧
          (resolveDays today allowed).Contains day) →
        ∃ merged, mergeDuring today (some asked) (some allowed) =
          .ok (some merged) ∧ (resolveDays today merged).Ordered := by
  refine ⟨fun r hr => allows_unfoldWithin_iff hr, ?_, ?_⟩
  · intro own shown error herror
    obtain ⟨asked, allowed, rfl, rfl, rfl, hapart⟩ :=
      mergeDuring_eq_error herror
    refine ⟨⟨asked, allowed, rfl, rfl, rfl⟩, ?_⟩
    rintro day ⟨hown, hshown⟩
    exact hapart (DaySpan.meets_of_contains (hown asked rfl)
      (hshown allowed rfl))
  · rintro asked allowed ⟨day, hasked, hallowed⟩
    exact exists_mergeDuring_of_contains hasked hallowed

/-- The thirteenth of September 2017, a Wednesday. -/
def midSeptember : Day := Day.ofCount 17422

/-- The first ten days of the month. -/
def earlySeptember : DaySpan := ⟨Day.ofCount 17410, Day.ofCount 17419⟩

/-- A catalog with a report of visits, a view of the last week, and a view of
the first ten days of September on top of it. -/
def weekCatalog : Catalog where
  version := "v1"
  tables := [
    { name := "VISITS", aggregateColumn := "Id",
      columns := [{ name := "Id" }] },
    { name := "WEEK"
      aggregateColumn := "Id"
      columns := [{ name := "Id" }]
      view := some {
        source := "VISITS"
        primaryKey := "Id"
        during := some (.named .last7Days) } },
    { name := "EARLY"
      aggregateColumn := "Id"
      columns := [{ name := "Id" }]
      view := some {
        source := "WEEK"
        primaryKey := "Id"
        during := some (.days earlySeptember) } }]

/-- The visits of the first ten days since the last Sunday, which is the
tenth. -/
def sundaySelect : Select where
  items := [{ column := { name := "Id" } }]
  source := "EARLY"
  during := some (.named .thisWeekSunToday)

theorem days_of_unfold_sundaySelect :
    ∃ r path, unfold weekCatalog midSeptember sundaySelect = .ok r ∧
      r.during = some (.days ⟨earlySeptember.stop, earlySeptember.stop⟩) ∧
      weekCatalog.ViewPath "EARLY" path r.source ∧
      (∀ day, Allows midSeptember r.during day ↔
        Allows midSeptember sundaySelect.during day ∧
          ∀ table ∈ path, ∀ view ∈ table.view,
            Allows midSeptember view.during day) ∧
      (∀ day, ¬ (Allows midSeptember (some (.named .today)) day ∧
        Allows midSeptember (some (.days earlySeptember)) day)) ∧
      ∃ merged, mergeDuring midSeptember (some (.named .last14Days))
          (some (.days earlySeptember)) = .ok (some merged) ∧
        (resolveDays midSeptember merged).Ordered := by
  obtain ⟨hunfolds, hrefused, hmerged⟩ :=
    days_of_unfold weekCatalog midSeptember sundaySelect
  have hduring : (unfold weekCatalog midSeptember sundaySelect).toOption.map
      Select.during =
      some (some (.days ⟨earlySeptember.stop, earlySeptember.stop⟩)) := by
    decide +kernel
  have hapart : mergeDuring midSeptember (some (.named .today))
      (some (.days earlySeptember)) =
      .error
        (.outOfScope (.disjointDays (.named .today)
          (.days earlySeptember))) := by
    decide +kernel
  have hshared : (resolveDays midSeptember (.named .last14Days)).Contains
      earlySeptember.start ∧
      (resolveDays midSeptember (.days earlySeptember)).Contains
        earlySeptember.start := by
    unfold DaySpan.Contains
    decide +kernel
  cases hr : unfold weekCatalog midSeptember sundaySelect with
  | error error => simp [hr] at hduring
  | ok r =>
      rw [hr] at hduring
      obtain ⟨path, hpath, hdays⟩ := hunfolds r hr
      exact ⟨r, path, rfl, Option.some.inj hduring, hpath, hdays,
        (hrefused _ _ _ hapart).2, hmerged _ _ ⟨_, hshared⟩⟩

end ReportQuery.Plan
