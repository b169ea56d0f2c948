import ReportQuery.Proofs.Catalog.Soundness
import ReportQuery.Proofs.Plan.Conditions

/-!
# Catalogs whose views can be traced

Statements that replace nothing only add views on top of what is there.
Starting from reports alone, the sources of every table then lead to a report,
and every view shows columns that its source has by methods that are known.
Nothing is said about the clauses of the views, since storing keeps them as
they are.
-/

namespace ReportQuery

/-- The columns of a view are taken by known methods from columns that the
source has, apart from those that count rows. -/
structure Table.ShownBy (table source : Table) : Prop where
  method : ∀ column ∈ table.columns, ∃ function, Plan.viewMethod column =
    .ok function
  column : ∀ column ∈ table.columns, column.name ≠ starName →
    source.hasColumn column.name = true

namespace Catalog

/-- From every name of the catalog the views lead to a report, and each of them
shows columns of its source. -/
structure Traced (catalog : Catalog) : Prop where
  path : ∀ name table, catalog.table? name = some table →
    ∃ path goal, catalog.ViewPath name path goal
  shown : ∀ name table, catalog.table? name = some table → ∀ view ∈ table.view,
    ∃ source, catalog.table? view.source = some source ∧ table.ShownBy source

/-! ## One stored view -/

theorem exists_viewMethod_of_viewColumn {source : Table} {item : SelectItem}
    {given : Option String} {column : TableColumn}
    (h : source.viewColumn item given = .ok column) :
    ∃ function, Plan.viewMethod column = .ok function := by
  have hmethod := (Table.becomesColumn_of_viewColumn h).method
  cases hfunction : item.function with
  | none =>
      rw [hfunction] at hmethod
      exact ⟨_, by rw [Plan.viewMethod, hmethod]; rfl⟩
  | some function =>
      rw [hfunction] at hmethod
      refine ⟨some function, ?_⟩
      rw [Plan.viewMethod, hmethod]
      simp [AggregateFunction.ofName?_name]

theorem shownBy_of_describes {create : CreateView} {source : Table}
    {blocks : List (List TableColumn)} (h : create.Describes source blocks) :
    (create.table source blocks).ShownBy source := by
  refine ⟨?_, ?_⟩
  · intro column hmem
    rcases h.cases_of_mem hmem with ⟨item, -, -, origin, -, rfl⟩ | ⟨item, -, -,
      given, hcolumn⟩
    · exact ⟨_, rfl⟩
    · exact exists_viewMethod_of_viewColumn hcolumn
  · intro column hmem hname
    rcases h.cases_of_mem hmem with
      ⟨item, -, -, origin, horigin, rfl⟩ | ⟨item, -, -, given, hcolumn⟩
    · exact List.find?_isSome.mpr ⟨origin, horigin, beq_self_eq_true _⟩
    · have hserves : source.serves item.name = true :=
        Table.exists_viewColumn_iff.mp ⟨column, hcolumn⟩
      rw [← (Table.becomesColumn_of_viewColumn hcolumn).name] at hserves
      rwa [Table.serves_of_ne hname] at hserves

variable {catalog : Catalog} {fresh : Table}

theorem table?_storing_of_found (hfresh : catalog.table? fresh.name = none)
    {name : String} {table : Table} (h : catalog.table? name = some table) :
    (catalog.storing fresh).table? name = some table := by
  have hne : name ≠ fresh.name := by
    rintro rfl
    simp [hfresh] at h
  exact (table?_storing_other catalog hne).trans h

/-- A path stays when a table is stored under a new name. -/
theorem ViewPath.storing (hfresh : catalog.table? fresh.name = none)
    {name goal : String} {path : List Table}
    (h : catalog.ViewPath name path goal) :
    (catalog.storing fresh).ViewPath name path goal := by
  induction h with
  | report htable hview =>
      exact .report (table?_storing_of_found hfresh htable) hview
  | view htable hview _ ih =>
      exact .view (table?_storing_of_found hfresh htable) hview ih

/-- An accepted statement that replaces nothing keeps a catalog traced. -/
theorem Traced.addView {catalog' : Catalog} {create : CreateView}
    (h : catalog.Traced) (hnew : create.replace = false)
    (hadd : catalog.addView create = .ok catalog') : catalog'.Traced := by
  obtain ⟨hfree, source, blocks, hsource, hdescribes, rfl⟩ :=
    addView_eq_ok_iff.mp hadd
  have hfresh : catalog.table? (create.table source blocks).name = none := by
    rw [Option.eq_none_iff_forall_ne_some]
    intro existing hexisting
    have hreplace := (checkName_eq_ok_iff.mp hfree existing hexisting).1
    simp [hnew] at hreplace
  have hbase : catalog.table? source.name = some source := by
    rw [name_of_table? hsource, hsource]
  refine ⟨?_, ?_⟩
  · intro name table htable
    rcases table?_storing_eq_some_iff.mp htable with ⟨rfl, rfl⟩ | ⟨-, hbefore⟩
    · obtain ⟨path, goal, hpath⟩ := h.path source.name source hbase
      exact ⟨_, goal, .view htable rfl (hpath.storing hfresh)⟩
    · obtain ⟨path, goal, hpath⟩ := h.path name table hbefore
      exact ⟨path, goal, hpath.storing hfresh⟩
  · intro name table htable view hview
    rcases table?_storing_eq_some_iff.mp htable with ⟨-, rfl⟩ | ⟨-, hbefore⟩
    · obtain rfl := Option.some.inj hview
      exact ⟨source, table?_storing_of_found hfresh hbase,
        shownBy_of_describes hdescribes⟩
    · obtain ⟨below, hbelow, hshown⟩ := h.shown name table hbefore view hview
      exact ⟨below, table?_storing_of_found hfresh hbelow, hshown⟩

/-! ## Any number of statements -/

theorem traced_of_reports
    (hreports : ∀ table ∈ catalog.tables, table.view = none) :
    catalog.Traced := by
  have hview : ∀ name table, catalog.table? name = some table →
      table.view = none :=
    fun name table htable => hreports table (List.mem_of_find?_eq_some htable)
  refine ⟨?_, ?_⟩
  · intro name table htable
    exact ⟨[], name, .report htable (hview name table htable)⟩
  · intro name table htable view hmem
    simp [hview name table htable] at hmem

/-- Reports alone, and what statements that replace nothing make of them, are
traced. -/
theorem traced_addViews (hreports : ∀ table ∈ catalog.tables, table.view = none)
    {creates : List CreateView}
    (hnew : ∀ create ∈ creates, create.replace = false) :
    (catalog.addViews creates).Traced :=
  addViews_induction Traced (fun create => create.replace = false)
    (fun _ _ _ hbefore => hbefore.addView) (traced_of_reports hreports) hnew

end Catalog

end ReportQuery
