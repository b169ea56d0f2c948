import Mathlib.Data.List.Nodup
import ReportQuery.Proofs.Plan.Chain
import ReportQuery.Proofs.Statement.WellFormed

/-!
# Catalogs whose views can be resolved

In a sound catalog every name stands for one table, the sources of a view lead
to a report, and the source of a view has the columns that the view shows.
Storing a view checks the source of the new view alone, and against the catalog
as it was. So names stay unique and sources stay present, but a view that takes
the place of another may run into its own chain, or may lack columns that the
views on top of it show; and a star takes over a column of counted rows that is
shown as a star itself. These are the only ways in which an accepted statement
makes a sound catalog unsound.
-/

namespace ReportQuery

/-- Whether a table has the column that a column of a view on it shows; a star
counts rows by the column that the table counts. -/
def Table.supplies (source : Table) (column : TableColumn) : Bool :=
  source.hasColumn
    (if column.name == starName then source.aggregateColumn else column.name)

namespace Catalog

/-- No two tables have the same name. -/
def NamesUnique (catalog : Catalog) : Prop :=
  (catalog.tables.map Table.name).Nodup

/-- The source of every view is in the catalog. -/
def SourcesPresent (catalog : Catalog) : Prop :=
  ∀ table ∈ catalog.tables, ∀ view ∈ table.view,
    ∃ source, catalog.table? view.source = some source

/-- From a name on, the sources lead to a report. -/
inductive Grounded (catalog : Catalog) : String → Prop where
  | report {name : String} {table : Table} :
      catalog.table? name = some table → table.view = none →
      Grounded catalog name
  | view {name : String} {table : Table} {view : View} :
      catalog.table? name = some table → table.view = some view →
        Grounded catalog view.source → Grounded catalog name

/-- A catalog whose views can be resolved. -/
structure Sound (catalog : Catalog) : Prop where
  names : catalog.NamesUnique
  sources : catalog.SourcesPresent
  grounded : ∀ table ∈ catalog.tables, table.isView = true →
    catalog.Grounded table.name
  columns : ∀ table ∈ catalog.tables, ∀ view ∈ table.view, ∀ source,
    catalog.table? view.source = some source → ∀ column ∈ table.columns,
      source.supplies column = true

/-- The catalog after a statement; a refused one changes nothing. -/
def afterView (catalog : Catalog) (create : CreateView) : Catalog :=
  (catalog.addView create).toOption.getD catalog

/-- The catalog after statements, one after the other. -/
def addViews (catalog : Catalog) (creates : List CreateView) : Catalog :=
  creates.foldl afterView catalog

/-- What keeps a catalog sound when it accepts a statement: the new view does
not run into its own name, the views on that name find their columns in it, and
where it shows everything of a source with a column that is shown as a star,
the source has the column that it counts. -/
structure Harmless (catalog : Catalog) (create : CreateView) : Prop where
  circle : ¬ catalog.LeadsTo create.name create.select.source
  shown : ∀ stored, catalog.viewTable create = .ok stored →
    ∀ table ∈ catalog.tables, table.name ≠ create.name → ∀ view ∈ table.view,
    view.source = create.name →
      ∀ column ∈ table.columns, stored.supplies column = true
  star : ∀ item ∈ create.select.items, item.isStar = true → ∀ source,
    catalog.table? create.select.source = some source →
    source.hasColumn starName = true →
      source.hasColumn source.aggregateColumn = true

/-! ## Unique names -/

theorem table?_eq_some_iff {catalog : Catalog} (h : catalog.NamesUnique)
    {name : String} {table : Table} :
    catalog.table? name = some table ↔
      table ∈ catalog.tables ∧ table.name = name := by
  constructor
  · intro hfound
    exact ⟨List.mem_of_find?_eq_some hfound, name_of_table? hfound⟩
  · rintro ⟨hmem, rfl⟩
    cases hfound : catalog.table? table.name with
    | none =>
        rw [table?, List.find?_eq_none] at hfound
        exact absurd (beq_self_eq_true table.name) (hfound table hmem)
    | some other =>
        have hother := List.mem_of_find?_eq_some hfound
        exact congrArg some (List.inj_on_of_nodup_map h hother hmem
          (name_of_table? hfound))

theorem names_put (table : Table) (tables : List Table) :
    (put table tables).map Table.name =
      if table.name ∈ tables.map Table.name then tables.map Table.name
      else tables.map Table.name ++ [table.name] := by
  induction tables with
  | nil => rfl
  | cons other rest ih =>
      by_cases hname : other.name = table.name
      · simp [put, hname]
      · have hne : table.name ≠ other.name := Ne.symm hname
        rw [put, if_neg (by simpa using hname), List.map_cons, ih,
          List.map_cons]
        by_cases hmem : table.name ∈ rest.map Table.name
        · rw [if_pos hmem, if_pos (List.mem_cons_of_mem _ hmem)]
        · rw [if_neg hmem, if_neg (by simp [hne, hmem]), List.cons_append]

theorem namesUnique_storing {catalog : Catalog} (h : catalog.NamesUnique)
    (stored : Table) : (catalog.storing stored).NamesUnique := by
  change ((put stored catalog.tables).map Table.name).Nodup
  rw [names_put]
  split
  · exact h
  · next hfresh =>
      rw [List.nodup_append]
      refine ⟨h, List.nodup_singleton _, ?_⟩
      rintro name hname other hother rfl
      exact hfresh (List.mem_singleton.mp hother ▸ hname)

theorem sourcesPresent_storing {catalog : Catalog}
    (hnames : catalog.NamesUnique) (h : catalog.SourcesPresent) {stored : Table}
    {view : View} (hview : stored.view = some view)
    (hsource : ∃ source, catalog.table? view.source = some source) :
    (catalog.storing stored).SourcesPresent := by
  have hkept : ∀ name, (∃ source, catalog.table? name = some source) →
      ∃ source, (catalog.storing stored).table? name = some source := by
    rintro name ⟨source, hfound⟩
    by_cases hname : name = stored.name
    · exact ⟨stored, hname ▸ table?_storing_same catalog stored⟩
    · exact ⟨source, (table?_storing_other catalog hname).trans hfound⟩
  intro table htable other hother
  apply hkept
  have hfound := (table?_eq_some_iff (namesUnique_storing hnames stored)).mpr
    ⟨htable, rfl⟩
  rcases table?_storing_eq_some_iff.mp hfound with ⟨-, rfl⟩ | ⟨-, hbefore⟩
  · obtain rfl := Option.some.inj (hview.symm.trans hother)
    exact hsource
  · exact h table ((table?_eq_some_iff hnames).mp hbefore).1 other hother

/-! ## Chains to a report -/

variable {catalog : Catalog} {stored : Table} {view : View}

/-- A chain that does not meet a stored view leads to a report as before. -/
theorem grounded_storing_of_not_leadsTo {name : String}
    (h : catalog.Grounded name) (hleads : ¬ catalog.LeadsTo stored.name name) :
    (catalog.storing stored).Grounded name := by
  induction h with
  | @report name table htable hnone =>
      have hne : name ≠ stored.name := fun heq => hleads (heq ▸ .here)
      exact .report ((table?_storing_other catalog hne).trans htable) hnone
  | @view name table view htable hview _ ih =>
      have hne : name ≠ stored.name := fun heq => hleads (heq ▸ .here)
      have hnext : ¬ catalog.LeadsTo stored.name view.source :=
        fun hmeets => hleads (.step htable hview hmeets)
      exact .view ((table?_storing_other catalog hne).trans htable)
        hview (ih hnext)

/-- Where the source of a stored view leads to a report without meeting the
view, so does every name. -/
theorem grounded_storing {name : String} (h : catalog.Grounded name)
    (hview : stored.view = some view) (hsource : catalog.Grounded view.source)
    (hleads : ¬ catalog.LeadsTo stored.name view.source) :
    (catalog.storing stored).Grounded name := by
  have hstored : (catalog.storing stored).Grounded stored.name :=
    .view (table?_storing_same catalog stored) hview
      (grounded_storing_of_not_leadsTo hsource hleads)
  induction h with
  | @report name table htable hnone =>
      by_cases hname : name = stored.name
      · exact hname ▸ hstored
      · exact .report ((table?_storing_other catalog hname).trans htable) hnone
  | @view name table view htable hview _ ih =>
      by_cases hname : name = stored.name
      · exact hname ▸ hstored
      · exact .view ((table?_storing_other catalog hname).trans htable) hview ih

/-- A stored view whose source leads back to it leads to no report, nor does
what leads to it. -/
theorem not_grounded_storing_of_circle (hview : stored.view = some view)
    (hcircle : catalog.LeadsTo stored.name view.source) {name : String}
    (hleads : catalog.LeadsTo stored.name name) :
    ¬ (catalog.storing stored).Grounded name := by
  intro h
  induction h with
  | @report name table htable hnone =>
      rcases table?_storing_eq_some_iff.mp htable with
        ⟨-, rfl⟩ | ⟨hname, hbefore⟩
      · simp [hview] at hnone
      · cases hleads with
        | here => exact hname rfl
        | step hother hotherView _ =>
            obtain rfl := Option.some.inj (hbefore.symm.trans hother)
            simp [hotherView] at hnone
  | @view name table next htable hnext _ ih =>
      rcases table?_storing_eq_some_iff.mp htable with
        ⟨-, rfl⟩ | ⟨hname, hbefore⟩
      · obtain rfl := Option.some.inj (hview.symm.trans hnext)
        exact ih hcircle
      · cases hleads with
        | here => exact hname rfl
        | step hother hotherView hrest =>
            obtain rfl := Option.some.inj (hbefore.symm.trans hother)
            obtain rfl := Option.some.inj (hotherView.symm.trans hnext)
            exact ih hrest

theorem Sound.grounded_of_table? (h : catalog.Sound) {name : String}
    {table : Table} (htable : catalog.table? name = some table) :
    catalog.Grounded name := by
  cases hview : table.view with
  | none => exact .report htable hview
  | some view =>
      obtain ⟨hmem, rfl⟩ := (table?_eq_some_iff h.names).mp htable
      exact h.grounded table hmem (by simp [Table.isView, hview])

/-! ## One stored view -/

theorem mem_storing_of_ne (hnames : catalog.NamesUnique) {table : Table}
    (hne : table.name ≠ stored.name) :
    table ∈ (catalog.storing stored).tables ↔ table ∈ catalog.tables := by
  have hafter : (catalog.storing stored).table? table.name = some table ↔
      table ∈ (catalog.storing stored).tables ∧ table.name = table.name :=
    table?_eq_some_iff (namesUnique_storing hnames stored)
  rw [table?_storing_other catalog hne, table?_eq_some_iff hnames] at hafter
  simpa using hafter.symm

theorem eq_of_mem_storing (hnames : catalog.NamesUnique) {table : Table}
    (hmem : table ∈ (catalog.storing stored).tables)
    (hname : table.name = stored.name) : table = stored := by
  have hfound := (table?_eq_some_iff (namesUnique_storing hnames stored)).mpr
    ⟨hmem, hname⟩
  rw [table?_storing_same] at hfound
  exact (Option.some.inj hfound).symm

theorem mem_storing_self (hnames : catalog.NamesUnique) (stored : Table) :
    stored ∈ (catalog.storing stored).tables :=
  ((table?_eq_some_iff (namesUnique_storing hnames stored)).mp
    (table?_storing_same catalog stored)).1

theorem not_leadsTo_of_sound_storing (hnames : catalog.NamesUnique)
    (hview : stored.view = some view)
    (hsound : (catalog.storing stored).Sound) :
    ¬ catalog.LeadsTo stored.name view.source := by
  intro hleads
  have hgrounded := hsound.grounded stored (mem_storing_self hnames stored)
    (by simp [Table.isView, hview])
  exact not_grounded_storing_of_circle hview hleads .here hgrounded

theorem grounded_of_mem_storing (h : catalog.Sound)
    (hview : stored.view = some view) {source : Table}
    (hsource : catalog.table? view.source = some source)
    (hcircle : ¬ catalog.LeadsTo stored.name view.source) {table : Table}
    (hmem : table ∈ (catalog.storing stored).tables) :
    (catalog.storing stored).Grounded table.name := by
  have hground := h.grounded_of_table? hsource
  by_cases hname : table.name = stored.name
  · rw [hname]
    exact .view (table?_storing_same catalog stored) hview
      (grounded_storing_of_not_leadsTo hground hcircle)
  · have hkept := (mem_storing_of_ne h.names hname).mp hmem
    have hfound := (table?_eq_some_iff h.names).mpr ⟨hkept, rfl⟩
    exact grounded_storing (h.grounded_of_table? hfound) hview hground hcircle

/-- Storing a view keeps a catalog sound exactly when the view does not run
into its own name, the other views on that name find their columns in it, and
it finds its own in its source. -/
theorem sound_storing_iff (h : catalog.Sound) (hview : stored.view = some view)
    {source : Table} (hsource : catalog.table? view.source = some source) :
    (catalog.storing stored).Sound ↔
      ¬ catalog.LeadsTo stored.name view.source ∧
      (∀ table ∈ catalog.tables, table.name ≠ stored.name →
        ∀ other ∈ table.view, other.source = stored.name →
        ∀ column ∈ table.columns, stored.supplies column = true) ∧
      ∀ column ∈ stored.columns, source.supplies column = true := by
  have hne : ¬ catalog.LeadsTo stored.name view.source →
      view.source ≠ stored.name :=
    fun hcircle heq => hcircle (heq ▸ .here)
  constructor
  · intro hsound
    have hcircle := not_leadsTo_of_sound_storing h.names hview hsound
    refine ⟨hcircle, ?_, ?_⟩
    · intro table hmem hname other hother hsame
      have hkept := (mem_storing_of_ne h.names hname).mpr hmem
      exact hsound.columns table hkept other hother stored
        (hsame ▸ table?_storing_same catalog stored)
    · have hfound := (table?_storing_other catalog (hne hcircle)).trans hsource
      exact hsound.columns stored (mem_storing_self h.names stored) view hview
        source hfound
  · rintro ⟨hcircle, hshown, hcolumns⟩
    refine ⟨namesUnique_storing h.names stored,
      sourcesPresent_storing h.names h.sources hview ⟨source, hsource⟩,
      fun table hmem _ => grounded_of_mem_storing h hview hsource hcircle hmem,
      ?_⟩
    intro table hmem other hother target htarget
    by_cases hname : table.name = stored.name
    · obtain rfl := eq_of_mem_storing h.names hmem hname
      obtain rfl := Option.some.inj (hview.symm.trans hother)
      rw [table?_storing_other catalog (hne hcircle), hsource] at htarget
      exact Option.some.inj htarget ▸ hcolumns
    · have hkept := (mem_storing_of_ne h.names hname).mp hmem
      rcases table?_storing_eq_some_iff.mp htarget with
        ⟨hsame, rfl⟩ | ⟨-, hbefore⟩
      · exact hshown table hkept hname other hother hsame
      · exact h.columns table hkept other hother target hbefore

/-! ## Columns of a stored view -/

theorem supplies_of_viewColumn {source : Table} {item : SelectItem}
    {given : Option String} {column : TableColumn}
    (h : source.viewColumn item given = .ok column) :
    source.supplies column = true := by
  have hserves : source.serves item.name = true :=
    Table.exists_viewColumn_iff.mp ⟨column, h⟩
  rw [← (Table.becomesColumn_of_viewColumn h).name] at hserves
  exact hserves

theorem supplies_exposed_iff {source : Table} {column : TableColumn}
    (hmem : column ∈ source.columns) :
    source.supplies column.exposed = true ↔
      (column.label = starName →
        source.hasColumn source.aggregateColumn = true) := by
  have hlabel : source.hasColumn column.label = true :=
    List.find?_isSome.mpr ⟨column, hmem, beq_self_eq_true _⟩
  change source.hasColumn
    (if column.label == starName then _ else column.label) = true ↔ _
  by_cases hname : column.label = starName
  · simp [hname]
  · simp [hname, hlabel]

/-- The source of a stored view supplies its columns, unless a star takes over
a star. -/
theorem forall_supplies_iff_of_describes {create : CreateView} {source : Table}
    {blocks : List (List TableColumn)} (h : create.Describes source blocks) :
    (∀ column ∈ (create.table source blocks).columns,
      source.supplies column = true) ↔
      ∀ item ∈ create.select.items, item.isStar = true →
        source.hasColumn starName = true →
        source.hasColumn source.aggregateColumn = true := by
  change (∀ column ∈ blocks.flatten, source.supplies column = true) ↔ _
  constructor
  · intro hall item hitem hstar hcounted
    obtain ⟨index, hindex⟩ := List.mem_iff_getElem?.mp hitem
    have hentry : (item, index) ∈ create.select.items.zipIdx := by
      rw [List.mem_zipIdx_iff_getElem?]
      exact hindex
    obtain ⟨block, hblock, hcolumns⟩ :=
      List.exists_right_of_forall₂ h.blocks hentry
    rw [Table.viewColumns, if_pos hstar] at hcolumns
    split at hcolumns
    · obtain rfl := Except.ok.inj hcolumns
      obtain ⟨column, hcolumn⟩ := Option.isSome_iff_exists.mp hcounted
      have hmem := List.mem_of_find?_eq_some hcolumn
      have hlabel : column.label = starName := by
        have htest := List.find?_some hcolumn
        simpa using htest
      refine (supplies_exposed_iff hmem).mp (hall _ ?_) hlabel
      exact List.mem_flatten.mpr ⟨_, hblock, List.mem_map_of_mem hmem⟩
    · simp at hcolumns
  · intro hstars column hcolumn
    rcases h.cases_of_mem hcolumn with
      ⟨item, hitem, hstar, origin, horigin, rfl⟩ | ⟨item, -, -, given, hentry⟩
    · rw [supplies_exposed_iff horigin]
      intro hlabel
      apply hstars item hitem hstar
      exact List.find?_isSome.mpr ⟨origin, horigin, beq_iff_eq.mpr hlabel⟩
    · exact supplies_of_viewColumn hentry

/-! ## One statement -/

/-- Names stay unique and sources present, whatever is stored. -/
theorem present_of_addView {catalog' : Catalog} {create : CreateView}
    (hnames : catalog.NamesUnique) (hsources : catalog.SourcesPresent)
    (hadd : catalog.addView create = .ok catalog') :
    catalog'.NamesUnique ∧ catalog'.SourcesPresent := by
  obtain ⟨-, source, blocks, hsource, -, rfl⟩ := addView_eq_ok_iff.mp hadd
  have hname := name_of_table? hsource
  refine ⟨namesUnique_storing hnames _,
    sourcesPresent_storing hnames hsources rfl ⟨source, ?_⟩⟩
  change catalog.table? source.name = some source
  rw [hname, hsource]

/-- An accepted statement leaves a sound catalog sound exactly when it is
harmless. -/
theorem sound_of_addView_iff {catalog' : Catalog} {create : CreateView}
    (h : catalog.Sound) (hadd : catalog.addView create = .ok catalog') :
    catalog'.Sound ↔ catalog.Harmless create := by
  obtain ⟨hfree, source, blocks, hsource, hdescribes, rfl⟩ :=
    addView_eq_ok_iff.mp hadd
  have hname := name_of_table? hsource
  have hview : (create.table source blocks).view =
      some (create.clauses source) := rfl
  have hfound : catalog.table? (create.clauses source).source =
      some source := by
    change catalog.table? source.name = some source
    rw [hname, hsource]
  have hstored : catalog.viewTable create = .ok (create.table source blocks) :=
    viewTable_eq_ok_iff.mpr ⟨hfree, source, blocks, hsource, hdescribes, rfl⟩
  rw [sound_storing_iff h hview hfound,
    forall_supplies_iff_of_describes hdescribes]
  constructor
  · rintro ⟨hcircle, hshown, hstars⟩
    refine ⟨hname ▸ hcircle, ?_, ?_⟩
    · intro stored hstored'
      obtain rfl := Except.ok.inj (hstored.symm.trans hstored')
      exact hshown
    · intro item hitem hstar source' hsource'
      obtain rfl := Option.some.inj (hsource.symm.trans hsource')
      exact hstars item hitem hstar
  · intro hharmless
    have hcircle : ¬ catalog.LeadsTo create.name source.name :=
      hname ▸ hharmless.circle
    refine ⟨hcircle, hharmless.shown _ hstored, ?_⟩
    intro item hitem hstar
    exact hharmless.star item hitem hstar source hsource

/-! ## Any number of statements -/

theorem afterView_of_ok {catalog' : Catalog} {create : CreateView}
    (h : catalog.addView create = .ok catalog') :
    catalog.afterView create = catalog' := by
  rw [afterView, h]
  rfl

theorem afterView_of_error {create : CreateView} {error : CatalogError}
    (h : catalog.addView create = .error error) :
    catalog.afterView create = catalog := by
  rw [afterView, h]
  rfl

/-- What a catalog has and every accepted statement keeps, it has after a
statement. -/
theorem afterView_cases (Holds : Catalog → Prop) {create : CreateView}
    (h : Holds catalog)
    (hstep : ∀ after, catalog.addView create = .ok after → Holds after) :
    Holds (catalog.afterView create) := by
  cases hadd : catalog.addView create with
  | error error =>
      rw [afterView_of_error hadd]
      exact h
  | ok after =>
      rw [afterView_of_ok hadd]
      exact hstep after hadd

theorem addViews_append_singleton (catalog : Catalog)
    (creates : List CreateView) (create : CreateView) :
    catalog.addViews (creates ++ [create]) =
      (catalog.addViews creates).afterView create := by
  simp [addViews]

/-- What every accepted statement keeps, a run of statements keeps. -/
theorem addViews_induction (Holds : Catalog → Prop)
    (Allowed : CreateView → Prop)
    (hstep : ∀ before create after, Holds before → Allowed create →
      before.addView create = .ok after → Holds after)
    (h : Holds catalog) {creates : List CreateView}
    (hallowed : ∀ create ∈ creates, Allowed create) :
    Holds (catalog.addViews creates) := by
  induction creates using List.reverseRecOn with
  | nil => exact h
  | append_singleton called create ih =>
      have hcalled := ih fun other hother =>
        hallowed other (List.mem_append_left _ hother)
      rw [addViews_append_singleton]
      refine afterView_cases Holds hcalled fun after hadd => ?_
      exact hstep _ create after hcalled (hallowed create (by simp)) hadd

theorem present_addViews (hnames : catalog.NamesUnique)
    (hsources : catalog.SourcesPresent) (creates : List CreateView) :
    (catalog.addViews creates).NamesUnique ∧
      (catalog.addViews creates).SourcesPresent :=
  addViews_induction (fun catalog => catalog.NamesUnique ∧
    catalog.SourcesPresent) (fun _ => True)
    (fun _ _ _ hbefore _ hadd => present_of_addView hbefore.1 hbefore.2 hadd)
    ⟨hnames, hsources⟩ fun _ _ => trivial

/-- The names and the sources of a sound catalog stay, whatever is stored. A
run of statements keeps it sound after each of them exactly when all accepted
ones are harmless. -/
theorem sound_addViews_iff (h : catalog.Sound) (creates : List CreateView) :
    (∀ called, called <+: creates →
      (catalog.addViews called).NamesUnique ∧
        (catalog.addViews called).SourcesPresent) ∧
    ((∀ called, called <+: creates → (catalog.addViews called).Sound) ↔
      ∀ called create catalog', called ++ [create] <+: creates →
        (catalog.addViews called).addView create = .ok catalog' →
          (catalog.addViews called).Harmless create) := by
  refine ⟨fun called _ => present_addViews h.names h.sources called, ?_⟩
  constructor
  · intro hall called create catalog' hprefix hadd
    rw [← sound_of_addView_iff
      (hall called ((List.prefix_append _ _).trans hprefix)) hadd,
      ← afterView_of_ok hadd, ← addViews_append_singleton]
    exact hall _ hprefix
  · intro hharmless called hprefix
    induction called using List.reverseRecOn with
    | nil => exact h
    | append_singleton before create ih =>
        have hbefore := ih ((List.prefix_append _ _).trans hprefix)
        rw [addViews_append_singleton]
        refine afterView_cases Sound hbefore fun catalog' hadd => ?_
        rw [sound_of_addView_iff hbefore hadd]
        exact hharmless before create catalog' hprefix hadd

/-! ## Statements that do harm, and one that does not -/

/-- Whether the source of every view is present and supplies the columns of the
view. -/
def columnsSupplied (catalog : Catalog) : Bool :=
  catalog.tables.all fun table => table.view.all fun view =>
    (catalog.table? view.source).any fun source =>
      table.columns.all source.supplies

theorem columnsSupplied_iff {catalog : Catalog} :
    catalog.columnsSupplied = true ↔
      catalog.SourcesPresent ∧ ∀ table ∈ catalog.tables,
        ∀ view ∈ table.view, ∀ source,
        catalog.table? view.source = some source → ∀ column ∈ table.columns,
          source.supplies column = true := by
  simp only [columnsSupplied, List.all_eq_true, Option.all_eq_true,
    Option.any_eq_true, SourcesPresent]
  constructor
  · intro hall
    constructor
    · intro table htable view hview
      obtain ⟨source, hsource, -⟩ := hall table htable view hview
      exact ⟨source, hsource⟩
    · intro table htable view hview source hsource
      obtain ⟨found, hfound, hcolumns⟩ := hall table htable view hview
      exact Option.some.inj (hfound.symm.trans hsource) ▸ hcolumns
  · rintro ⟨hsources, hcolumns⟩ table htable view hview
    obtain ⟨source, hsource⟩ := hsources table htable view hview
    exact ⟨source, hsource, hcolumns table htable view hview source hsource⟩

/-- Whether a view reads from itself. -/
def readsItself (catalog : Catalog) : Bool :=
  catalog.tables.any fun table =>
    table.view.any fun view => view.source == table.name

theorem not_sound_of_readsItself (hself : catalog.readsItself = true) :
    ¬ catalog.Sound := by
  intro h
  obtain ⟨table, hmem, hany⟩ := List.any_eq_true.mp hself
  obtain ⟨view, hview, hsource⟩ := (Option.any_eq_true _ _).mp hany
  have htable := (table?_eq_some_iff h.names).mpr ⟨hmem, rfl⟩
  have hground := h.grounded_of_table? htable
  generalize table.name = name at hsource htable hground
  induction hground with
  | report htable' hnone =>
      obtain rfl := Option.some.inj (htable.symm.trans htable')
      simp [hview] at hnone
  | view htable' hview' _ ih =>
      obtain rfl := Option.some.inj (htable.symm.trans htable')
      obtain rfl := Option.some.inj (hview.symm.trans hview')
      rw [beq_iff_eq] at hsource
      rw [hsource] at ih
      exact ih (beq_self_eq_true _) htable

/-- The CREATE VIEW statements among texts. -/
def viewsOfTexts (texts : List String) : List CreateView :=
  texts.filterMap fun text =>
    match parseStatement text with
    | .ok (.createView create) => some create
    | _ => none

/-- A catalog with a report of shops, a view of it, and a view of the cities on
top. -/
def shopCatalog : Catalog where
  version := "v1"
  tables := [
    { name := "SHOPS"
      aggregateColumn := "Id"
      columns := [{ name := "Id" }, { name := "City" }] },
    { name := "places"
      aggregateColumn := "Id"
      columns :=
        [{ name := "Id" }, { name := "City", aliasName := some "town" }]
      view := some { source := "SHOPS", primaryKey := "Id" } },
    { name := "towns"
      aggregateColumn := "Id"
      columns := [{ name := "town" }]
      view := some { source := "places", primaryKey := "Id" } }]

theorem sound_shopCatalog : shopCatalog.Sound := by
  have hsupplied : shopCatalog.columnsSupplied = true := by decide +kernel
  obtain ⟨hsources, hcolumns⟩ := columnsSupplied_iff.mp hsupplied
  have htable : ∀ i (hi : i < 3),
      shopCatalog.table? shopCatalog.tables[i].name =
      some shopCatalog.tables[i] := by
    decide +kernel
  have hshops : shopCatalog.Grounded "SHOPS" :=
    .report (htable 0 (by decide)) rfl
  have hplaces : shopCatalog.Grounded "places" :=
    .view (htable 1 (by decide)) rfl hshops
  have htowns : shopCatalog.Grounded "towns" :=
    .view (htable 2 (by decide)) rfl hplaces
  refine ⟨by unfold NamesUnique; decide +kernel, hsources, ?_, hcolumns⟩
  intro table htable _
  simp only [shopCatalog, List.mem_cons, List.not_mem_nil, or_false] at htable
  rcases htable with rfl | rfl | rfl
  · exact hshops
  · exact hplaces
  · exact htowns

/-- A sound catalog does not stay sound: a replaced view may lack a column that
a view on it shows, may read from itself, and a view may take over a column
that is shown as a star. -/
theorem exists_not_sound_addViews_shopCatalog :
    shopCatalog.Sound ∧
    ¬ (shopCatalog.addViews
        (viewsOfTexts
          ["CREATE OR REPLACE VIEW places AS SELECT Id FROM SHOPS"])).Sound ∧
    ¬ (shopCatalog.addViews
        (viewsOfTexts
          ["CREATE OR REPLACE VIEW places AS SELECT Id, town FROM places"])).Sound ∧
    ¬ (shopCatalog.addViews
        (viewsOfTexts ["CREATE VIEW total AS SELECT COUNT(*) FROM SHOPS",
          "CREATE VIEW copy AS SELECT * FROM total"])).Sound := by
  refine ⟨sound_shopCatalog, ?_, ?_, ?_⟩
  · intro hsound
    have hsupplied := columnsSupplied_iff.mpr ⟨hsound.sources, hsound.columns⟩
    revert hsupplied
    decide +kernel
  · exact not_sound_of_readsItself (by decide +kernel)
  · intro hsound
    have hsupplied := columnsSupplied_iff.mpr ⟨hsound.sources, hsound.columns⟩
    revert hsupplied
    decide +kernel

/-- A statement that leaves the town in the view of places. -/
def townPlaces : CreateView where
  replace := true
  name := "places"
  columns := []
  select := {
    items := [{ column := { name := "City", aliasName := some "town" } }]
    source := "SHOPS" }

/-- A statement that may not replace the view of towns. -/
def idTowns : CreateView where
  replace := false
  name := "towns"
  columns := []
  select := { items := [{ column := { name := "Id" } }], source := "SHOPS" }

theorem harmless_townPlaces : shopCatalog.Harmless townPlaces := by
  refine ⟨?_, ?_, ?_⟩
  · intro hleads
    generalize hsource : townPlaces.select.source = source at hleads
    cases hleads with
    | here => exact absurd hsource (by decide +kernel)
    | step htable hview _ =>
        have hshops : shopCatalog.table? townPlaces.select.source =
            some shopCatalog.tables[0] := by
          decide +kernel
        rw [hsource, htable] at hshops
        rw [Option.some.inj hshops] at hview
        simp [shopCatalog] at hview
  · intro stored hstored table htable hother view hview hsource column hcolumn
    have htown : (shopCatalog.viewTable townPlaces).toOption.all
        (·.hasColumn "town") = true := by
      decide +kernel
    rw [hstored] at htown
    simp only [shopCatalog, List.mem_cons, List.not_mem_nil, or_false] at htable
    rcases htable with rfl | rfl | rfl
    · simp at hview
    · exact absurd rfl hother
    · obtain rfl := List.mem_singleton.mp hcolumn
      exact htown
  · intro item hitem hstar
    obtain rfl := List.mem_singleton.mp hitem
    exact absurd hstar (by decide +kernel)

/-- Of two statements the second is refused; after each of them the catalog is
sound. -/
theorem sound_addViews_townPlaces :
    viewsOfTexts
      ["CREATE OR REPLACE VIEW places AS SELECT City AS town FROM SHOPS",
        "CREATE VIEW towns AS SELECT Id FROM SHOPS"] = [townPlaces, idTowns] ∧
    shopCatalog.Sound ∧
    ∀ called, called <+: [townPlaces, idTowns] →
      (shopCatalog.addViews called).Sound := by
  refine ⟨by decide +kernel, sound_shopCatalog, ?_⟩
  rw [(sound_addViews_iff sound_shopCatalog [townPlaces, idTowns]).2]
  intro called create catalog' hcalled hadd
  rcases called with _ | ⟨first, _ | ⟨second, rest⟩⟩
  · obtain ⟨rfl, -⟩ := List.cons_prefix_cons.mp hcalled
    exact harmless_townPlaces
  · obtain ⟨rfl, hrest⟩ := List.cons_prefix_cons.mp hcalled
    obtain ⟨rfl, -⟩ := List.cons_prefix_cons.mp hrest
    have hrefused :
        ((shopCatalog.addViews [townPlaces]).addView idTowns).toOption =
        none := by
      decide +kernel
    rw [hadd] at hrefused
    exact absurd hrefused (Option.some_ne_none _)
  · exact absurd hcalled.length_le (by simp)

end Catalog

end ReportQuery
