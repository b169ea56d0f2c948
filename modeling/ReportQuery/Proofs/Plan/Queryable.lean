import ReportQuery.Proofs.Catalog.Traced
import ReportQuery.Proofs.Plan.Bind
import ReportQuery.Proofs.Plan.Depth
import ReportQuery.Proofs.Plan.Everything

/-!
# Views that can be queried

Storing a view looks up the columns of its select list and keeps its other
clauses as they are. So everything of a stored view can be selected exactly
when the clauses along its chain fit together: every condition reaches a column
of the report and meets no other condition on its column on the way, the days
of any two DURING clauses meet, and a report whose rows are counted has the
column that it counts.
-/

namespace ReportQuery

/-- Down a chain of views a condition reaches a column of the report, and no
view that it passes has another condition on the same column. -/
def Condition.Reaches (report : Table) : List Table → Condition → Prop
  | [], c => report.hasColumn c.column = true
  | table :: path, c =>
    ∃ d, c.below [table] = some d ∧
      (∀ view ∈ table.view, ∀ e ∈ view.conditions,
        d.column = e.column → d = e) ∧
      d.Reaches report path

/-- Down a chain of views a column of this name counts rows. -/
def CountsBelow : List Table → String → Prop
  | [], name => name = starName
  | table :: path, name =>
    name = starName ∨ ∃ column, table.column? name = some column ∧
      CountsBelow path column.name

/-- Down a chain of views an entry of this name reaches a column of the report,
be it the one that the report counts. -/
def Table.ServesBelow (report : Table) : List Table → String → Prop
  | [], name => report.serves name = true
  | table :: path, name =>
    (name = starName ∧ report.ServesBelow path starName) ∨
      (name ≠ starName ∧
        ∃ column, table.column? name = some column ∧
        report.ServesBelow path column.name)

namespace Plan

/-- Whether the days of two clauses meet. -/
def Meets (today : Day) (a b : During) : Prop :=
  (resolveDays today a).Meets (resolveDays today b)

instance (today : Day) (a b : During) : Decidable (Meets today a b) :=
  inferInstanceAs
    (Decidable ((resolveDays today a).Meets (resolveDays today b)))

/-- The DURING clauses along a chain of views. -/
def clausesAlong (path : List Table) : List During :=
  path.filterMap fun table => table.view.bind View.during

/-- The conditions of every view of a chain reach the report. -/
def ConditionsReach (report : Table) (path : List Table) : Prop :=
  ∀ table rest, table :: rest <:+ path → ∀ view ∈ table.view,
    ∀ c ∈ view.conditions, c.Reaches report rest

/-- The clauses along the chain of a view fit together. -/
structure Composes (today : Day) (report table : Table) (path : List Table) :
    Prop where
  conditions : ConditionsReach report (table :: path)
  days : (clausesAlong (table :: path)).Pairwise (Meets today)
  counted : (∃ column ∈ table.columns, CountsBelow path column.name) →
    report.hasColumn report.aggregateColumn = true

/-- What a statement at the head of a chain asks of the chain to be bound to
the report. -/
structure Fits (today : Day) (report : Table) (path : List Table) (s : Select) :
    Prop where
  items : ∀ item ∈ s.items, report.ServesBelow path item.name
  conditions : ∀ c ∈ s.conditions, c.Reaches report path
  shown : ConditionsReach report path
  days : (s.during.toList ++ clausesAlong path).Pairwise (Meets today)

variable {catalog : Catalog} {today : Day} {report table : Table}
  {path : List Table} {view : View}

/-! ## One view -/

theorem hasColumn_iff_below {c : Condition} :
    table.hasColumn c.column = true ↔ ∃ d, c.below [table] = some d := by
  rw [Table.hasColumn, Option.isSome_iff_exists]
  cases hcolumn : table.column? c.column <;>
    simp [Condition.below, columnBelow, hcolumn]

theorem not_conflicts_iff {own shown : List Condition} :
    ¬ table.Conflicts own shown ↔
      ∀ c ∈ own, ∀ d, c.below [table] = some d → ∀ e ∈ shown,
        d.column = e.column → d = e := by
  constructor
  · intro hnone c hc d hd e he hcolumn
    by_contra hne
    exact hnone ⟨e, he, c, hc, d, hd, hcolumn, hne⟩
  · rintro hsame ⟨e, he, c, hc, d, hd, hcolumn, hne⟩
    exact hne (hsame c hc d hd e he hcolumn)

/-- Conditions are merged when those of the statement have columns in the view
and none of them differs from a condition of the view on the same column. -/
theorem exists_mergeConditions_iff {own shown : List Condition}
    (P : Condition → Prop) :
    (∃ conditions, mergeConditions own shown table = .ok conditions ∧
      ∀ c ∈ conditions, P c) ↔ (∀ c ∈ own, ∃ d, c.below [table] = some d ∧
        (∀ e ∈ shown, d.column = e.column → d = e) ∧ P d) ∧
          ∀ c ∈ shown, P c := by
  constructor
  · rintro ⟨conditions, hmerge, hall⟩
    obtain ⟨hown, hshown⟩ := (forall_mem_mergeConditions_iff hmerge P).mp hall
    have hcolumns : ∀ c ∈ own, table.hasColumn c.column = true :=
      fun c hc => hasColumn_iff_below.mpr ((hown c hc).imp fun _ h => h.1)
    have hnone : ¬ table.Conflicts own shown := by
      rcases mergeConditions_of_hasColumn shown hcolumns with ⟨-,
        column, herror⟩ | ⟨hnone, -⟩
      · simp [hmerge] at herror
      · exact hnone
    refine ⟨?_, hshown⟩
    intro c hc
    obtain ⟨d, hd, hP⟩ := hown c hc
    exact ⟨d, hd, not_conflicts_iff.mp hnone c hc d hd, hP⟩
  · rintro ⟨hown, hshown⟩
    have hcolumns : ∀ c ∈ own, table.hasColumn c.column = true :=
      fun c hc => hasColumn_iff_below.mpr ((hown c hc).imp fun _ h => h.1)
    have hnone : ¬ table.Conflicts own shown := by
      rw [not_conflicts_iff]
      intro c hc d hd
      obtain ⟨d', hd', hsame, -⟩ := hown c hc
      exact Option.some.inj (hd'.symm.trans hd) ▸ hsame
    rcases mergeConditions_of_hasColumn shown hcolumns with
      ⟨hconflict, -⟩ | ⟨-, conditions, hmerge⟩
    · exact absurd hconflict hnone
    · refine ⟨conditions, hmerge, (forall_mem_mergeConditions_iff hmerge P).mpr
        ⟨?_, hshown⟩⟩
      intro c hc
      obtain ⟨d, hd, -, hP⟩ := hown c hc
      exact ⟨d, hd, hP⟩

/-- Clauses are merged when they meet, and then other clauses meet the merged
one when they meet both. -/
theorem exists_mergeDuring_iff (today : Day) (own shown : Option During)
    (rest : List During) :
    (∃ during, mergeDuring today own shown = .ok during ∧
        (during.toList ++ rest).Pairwise (Meets today)) ↔
      (own.toList ++ (shown.toList ++ rest)).Pairwise (Meets today) := by
  cases own with
  | none => simp [mergeDuring_none]
  | some asked =>
      cases shown with
      | none =>
          have hmerge : mergeDuring today (some asked) none =
              .ok (some asked) := rfl
          simp [hmerge]
      | some allowed =>
          simp only [Option.toList_some, List.singleton_append,
            List.pairwise_cons, List.forall_mem_cons]
          rcases mergeDuring_cases today asked allowed with
            ⟨hmeet, merged, hmerge, hdays⟩ | ⟨hapart, hrefused⟩
          · have hrest : (∀ clause ∈ rest, Meets today merged clause) ↔
                (∀ clause ∈ rest, Meets today asked clause) ∧
                  ∀ clause ∈ rest, Meets today allowed clause := by
              simp only [Meets, hdays, DaySpan.meets_common_iff hmeet,
                ← forall₂_and]
            simp only [hmerge, Except.ok.injEq, exists_eq_left',
              Option.toList_some, List.singleton_append,
              List.pairwise_cons, hrest]
            constructor
            · rintro ⟨⟨hasked, hallowed⟩, hpairs⟩
              exact ⟨⟨hmeet, hasked⟩, hallowed, hpairs⟩
            · rintro ⟨⟨-, hasked⟩, hallowed, hpairs⟩
              exact ⟨⟨hasked, hallowed⟩, hpairs⟩
          · constructor
            · rintro ⟨during, hmerge, -⟩
              simp [hrefused] at hmerge
            · rintro ⟨⟨hmeet, -⟩, -⟩
              exact absurd hmeet hapart

theorem name_of_mapColumn {item image : SelectItem} {column : TableColumn}
    (h : mapColumn item column = .ok image) : image.name = column.name := by
  obtain ⟨function, -, rfl⟩ := Except.map_eq_ok_iff.mp h
  rfl

theorem exists_mapColumn {column : TableColumn}
    (h : ∃ function, viewMethod column = .ok function) (item : SelectItem) :
    ∃ image, mapColumn item column = .ok image := by
  obtain ⟨function, hfunction⟩ := h
  cases hown : item.function with
  | none => exact ⟨_, by rw [mapColumn, mappedMethod, hown, hfunction]; rfl⟩
  | some own => exact ⟨_, by rw [mapColumn, mappedMethod, hown]; rfl⟩

theorem exists_mapItem_iff
    (hmethods : ∀ column ∈ table.columns, ∃ function, viewMethod column =
      .ok function) {item : SelectItem} :
    (∃ image, report.ServesBelow path image.name ∧
      mapItem table item = .ok image) ↔
      report.ServesBelow (table :: path) item.name := by
  constructor
  · rintro ⟨image, hserves, himage⟩
    rcases mapItem_eq_ok_iff.mp himage with ⟨hname, rfl⟩ | ⟨hname, column,
      hcolumn, hmap⟩
    · exact Or.inl ⟨hname, hname ▸ hserves⟩
    · exact Or.inr ⟨hname, column, hcolumn, name_of_mapColumn hmap ▸ hserves⟩
  · rintro (⟨hname, hserves⟩ | ⟨hname, column, hcolumn, hserves⟩)
    · exact ⟨item, hname ▸ hserves, mapItem_eq_ok_iff.mpr (Or.inl ⟨hname, rfl⟩)⟩
    · obtain ⟨image, hmap⟩ :=
        exists_mapColumn (hmethods column (List.mem_of_find?_eq_some hcolumn))
          item
      rw [← name_of_mapColumn hmap] at hserves
      exact ⟨image, hserves,
        mapItem_eq_ok_iff.mpr (Or.inr ⟨hname, column, hcolumn, hmap⟩)⟩

theorem reaches_cons_iff (hview : table.view = some view) {c : Condition} :
    c.Reaches report (table :: path) ↔
      ∃ d, c.below [table] = some d ∧
        (∀ e ∈ view.conditions, d.column = e.column → d = e) ∧
        d.Reaches report path := by
  simp only [Condition.Reaches, hview, Option.mem_some_iff, forall_eq']

theorem conditionsReach_nil (report : Table) : ConditionsReach report [] := by
  intro table rest hsuffix
  simp at hsuffix

theorem conditionsReach_cons_iff (report : Table) (path : List Table)
    (hview : table.view = some view) :
    ConditionsReach report (table :: path) ↔
      (∀ c ∈ view.conditions, c.Reaches report path) ∧
        ConditionsReach report path := by
  rw [ConditionsReach, forall_suffix_cons_iff]
  simp only [ConditionsReach, hview, Option.mem_some_iff, forall_eq']

theorem clausesAlong_cons (hview : table.view = some view) (path : List Table) :
    clausesAlong (table :: path) = view.during.toList ++ clausesAlong path := by
  cases hduring : view.during <;> simp [clausesAlong, hview, hduring]

/-- A merged statement fits the rest of a chain when the statement fits the
whole chain. -/
theorem exists_merge_fits_iff {s : Select} (hs : s.Aligned)
    (hview : table.view = some view)
    (hmethods : ∀ column ∈ table.columns, ∃ function, viewMethod column =
      .ok function) :
    (∃ merged, merge today s table view = .ok merged ∧
      Fits today report path merged) ↔ Fits today report (table :: path) s := by
  have hitems : (∃ mapped,
      List.Forall₂ (fun item image => mapItem table item = .ok image)
        s.items mapped ∧ ∀ image ∈ mapped, report.ServesBelow path image.name) ↔
      ∀ item ∈ s.items, report.ServesBelow (table :: path) item.name := by
    rw [List.exists_forall₂_and_iff]
    exact forall₂_congr fun item _ => exists_mapItem_iff hmethods
  have hconditions :
      (∃ conditions, mergeConditions s.conditions view.conditions table =
      .ok conditions ∧ ∀ c ∈ conditions, c.Reaches report path) ↔
      (∀ c ∈ s.conditions, c.Reaches report (table :: path)) ∧
        ∀ c ∈ view.conditions, c.Reaches report path := by
    rw [exists_mergeConditions_iff fun c => c.Reaches report path]
    simp only [reaches_cons_iff hview]
  have hdays := exists_mergeDuring_iff today s.during view.during
    (clausesAlong path)
  rw [← clausesAlong_cons hview] at hdays
  have hshown := conditionsReach_cons_iff report path hview
  constructor
  · rintro ⟨merged, hmerge, hfits⟩
    obtain ⟨mapped, conditions, during, hmapped, hmerged, hduring, rfl⟩ :=
      (merge_eq_ok_iff_of_aligned hs).mp hmerge
    obtain ⟨hown, hview⟩ :=
      hconditions.mp ⟨conditions, hmerged, hfits.conditions⟩
    exact ⟨hitems.mp ⟨mapped, hmapped, hfits.items⟩, hown,
      hshown.mpr ⟨hview, hfits.shown⟩, hdays.mp ⟨during, hduring, hfits.days⟩⟩
  · intro hfits
    obtain ⟨mapped, hmapped, himages⟩ := hitems.mpr hfits.items
    obtain ⟨hview, hrest⟩ := hshown.mp hfits.shown
    obtain ⟨conditions, hmerged, hreach⟩ :=
      hconditions.mpr ⟨hfits.conditions, hview⟩
    obtain ⟨during, hduring, hmeet⟩ := hdays.mpr hfits.days
    exact ⟨_, (merge_eq_ok_iff_of_aligned hs).mpr
      ⟨mapped, conditions, during, hmapped, hmerged, hduring, rfl⟩,
      himages, hreach, hrest, hmeet⟩

/-! ## Whole chains -/

/-- A statement on a report fits when the report has the columns of its entries
and conditions. -/
theorem fits_nil_iff {s : Select} :
    Fits today report [] s ↔
      (∀ item ∈ s.items, report.serves item.name = true) ∧
        ∀ c ∈ s.conditions, report.hasColumn c.column = true := by
  constructor
  · intro hfits
    exact ⟨hfits.items, hfits.conditions⟩
  · rintro ⟨hitems, hconditions⟩
    refine ⟨hitems, hconditions, conditionsReach_nil report, ?_⟩
    cases s.during <;> simp [clausesAlong]

/-- A statement that fits the chain from its source is merged with every view
of the chain and bound to the report, and no other is. -/
theorem exists_bind_mergeAlong_iff (today : Day) (htraced : catalog.Traced)
    (hreport : catalog.table? report.name = some report) {s : Select}
    (hs : s.Aligned) (hpath : catalog.ViewPath s.source path report.name) :
    (∃ bound, (mergeAlong today path s).bind (bind catalog) = .ok bound) ↔
      Fits today report path s := by
  generalize hsource : s.source = name at hpath
  generalize hgoal : report.name = goal at hpath
  induction hpath generalizing s with
  | report htable hview =>
      have hfound : catalog.table? s.source = some report := by
        rw [hsource, ← hgoal, hreport]
      rw [fits_nil_iff]
      exact exists_bind_iff hfound hs.star
  | @view name goal table view path htable hview _ ih =>
      obtain ⟨source, -, hshown⟩ := htraced.shown name table htable view hview
      have hrest : ∀ merged, merge today s table view = .ok merged →
          ((∃ bound, (mergeAlong today path merged).bind (bind catalog) =
            .ok bound) ↔ Fits today report path merged) :=
        fun merged hmerge => ih (aligned_of_merge hmerge)
          (source_of_merge hmerge) hgoal
      rw [← exists_merge_fits_iff hs hview hshown.method, mergeAlong_cons hview]
      cases hmerge : merge today s table view with
      | error error => simp
      | ok merged => simp [← hrest merged hmerge]

theorem countsBelow_starName (path : List Table) :
    CountsBelow path starName := by
  cases path with
  | nil => rfl
  | cons table path => exact Or.inl rfl

/-- In a traced catalog a column of a view reaches the report, unless it counts
rows there and the report lacks the column that it counts. -/
theorem servesBelow_iff (htraced : catalog.Traced)
    (hreport : catalog.table? report.name = some report) {name label : String}
    (hpath : catalog.ViewPath name path report.name)
    (htable : catalog.table? name = some table)
    (hlabel : label ≠ starName → table.hasColumn label = true) :
    report.ServesBelow path label ↔
      (CountsBelow path label →
        report.hasColumn report.aggregateColumn = true) := by
  generalize hgoal : report.name = goal at hpath
  induction hpath generalizing table label with
  | report hfound hview =>
      obtain rfl : report = table := by
        rw [← hgoal, hreport] at htable
        exact Option.some.inj htable
      by_cases hname : label = starName
      · subst hname
        simp [Table.ServesBelow, CountsBelow, Table.serves_starName]
      · simp [Table.ServesBelow, CountsBelow, hname, Table.serves_of_ne hname,
          hlabel hname]
  | @view name goal found view path hfound hview hrest ih =>
      obtain rfl := Option.some.inj (hfound.symm.trans htable)
      obtain ⟨source, hsource, hshown⟩ :=
        htraced.shown name found hfound view hview
      by_cases hname : label = starName
      · subst hname
        have hstar := ih hsource (fun hne => absurd rfl hne) hgoal
        simp [Table.ServesBelow, CountsBelow, hstar, countsBelow_starName]
      · obtain ⟨column, hcolumn⟩ := Option.isSome_iff_exists.mp (hlabel hname)
        have hbelow :=
          ih hsource (hshown.column column (List.mem_of_find?_eq_some hcolumn))
            hgoal
        simp [Table.ServesBelow, CountsBelow, hname, hcolumn, hbelow]

/-! ## Everything of a view -/

theorem exists_expandColumns
    (hmethods : ∀ column ∈ table.columns, ∃ function, viewMethod column =
      .ok function) :
    ∃ shown, table.columns.mapM expandColumn = .ok shown := by
  have hexpanded : ∃ shown,
      List.Forall₂ (fun column image => expandColumn column = .ok image)
      table.columns shown := by
    rw [List.exists_forall₂_iff]
    intro column hcolumn
    obtain ⟨function, hfunction⟩ := hmethods column hcolumn
    exact ⟨_, Except.map_eq_ok_iff.mpr ⟨function, hfunction, rfl⟩⟩
  obtain ⟨shown, hshown⟩ := hexpanded
  exact ⟨shown, Except.mapM_eq_ok_iff.mpr hshown⟩

/-- All columns of a view with all its clauses fit the views below when the
clauses along the whole chain fit together. -/
theorem fits_iff_composes (htraced : catalog.Traced)
    (hreport : catalog.table? report.name = some report) {source : Table}
    (hsource : catalog.table? view.source = some source)
    (hpath : catalog.ViewPath view.source path report.name)
    (hview : table.view = some view) (hshown : table.ShownBy source)
    {s : Select}
    (hnames : s.items.map SelectItem.name = table.columns.map TableColumn.name)
    (hconditions : s.conditions = view.conditions)
    (hduring : s.during = view.during) :
    Fits today report path s ↔ Composes today report table path := by
  have hitems : (∀ item ∈ s.items, report.ServesBelow path item.name) ↔
      ∀ column ∈ table.columns, report.ServesBelow path column.name := by
    rw [← List.forall_mem_map, hnames, List.forall_mem_map]
  have hserves :
      (∀ column ∈ table.columns, report.ServesBelow path column.name) ↔
      ((∃ column ∈ table.columns, CountsBelow path column.name) →
        report.hasColumn report.aggregateColumn = true) := by
    rw [forall_exists_index]
    simp only [and_imp]
    exact forall₂_congr fun column hcolumn =>
      servesBelow_iff htraced hreport hpath hsource
        (hshown.column column hcolumn)
  have hreach := conditionsReach_cons_iff report path hview
  have hdays := clausesAlong_cons hview path
  rw [← hduring] at hdays
  rw [← hconditions] at hreach
  constructor
  · intro hfits
    refine ⟨hreach.mpr ⟨hfits.conditions, hfits.shown⟩, ?_,
      hserves.mp (hitems.mp hfits.items)⟩
    rw [hdays]
    exact hfits.days
  · intro hcomposes
    obtain ⟨hown, hbelow⟩ := hreach.mp hcomposes.conditions
    refine ⟨hitems.mpr (hserves.mpr hcomposes.counted), hown, hbelow, ?_⟩
    rw [← hdays]
    exact hcomposes.days

/-- Where fewer than sixteen views are gone through, everything of a view is
merged with the views below it and bound to the report exactly when the clauses
along the chain fit together. -/
theorem exists_prepare_everything_iff (htraced : catalog.Traced) {name : String}
    (hpath : catalog.ViewPath name (table :: path) report.name)
    (hreport : catalog.table? report.name = some report)
    (hshort : (table :: path).length ≤ 15) (today : Day)
    (terminator : Terminator) :
    (∃ bound, prepare catalog today (.everything name terminator) = .ok bound) ↔
      Composes today report table path := by
  have hunfold : unfold catalog today (.everything name terminator) =
      mergeAlong today (table :: path) (.everything name terminator) :=
    unfold_eq_mergeAlong hpath (Nat.lt_succ_of_le hshort)
  cases hpath with
  | @view _ _ _ view _ htable hview hrest =>
      obtain ⟨source, hsource, hshown⟩ :=
        htraced.shown name table htable view hview
      obtain ⟨shown, hcolumns⟩ := exists_expandColumns hshown.method
      have hmerge : merge today (.everything name terminator) table view =
          .ok _ :=
        merge_everything hcolumns today name terminator
      have hrun := exists_bind_mergeAlong_iff today htraced hreport
        (aligned_of_merge hmerge) hrest
      rw [prepare, hunfold, mergeAlong_cons hview, hmerge]
      exact hrun.trans (fits_iff_composes htraced hreport hsource hrest
        hview hshown (names_of_expandColumns hcolumns) rfl rfl)

/-- Over reports, statements that replace nothing store views that lead to a
report each. Of a view at most fifteen levels above it everything can be
selected exactly when the clauses along its chain fit together. -/
theorem exists_prepare_everything_addViews_iff {reports : Catalog}
    (hreports : ∀ table ∈ reports.tables, table.view = none)
    {creates : List CreateView}
    (hnew : ∀ create ∈ creates, create.replace = false) {name : String}
    {table : Table}
    (htable : (reports.addViews creates).table? name = some table)
    (hview : table.isView = true) :
    (∃ path report, (reports.addViews creates).ViewPath name (table :: path)
      report.name ∧
      (reports.addViews creates).table? report.name = some report) ∧
    ∀ path report, (reports.addViews creates).ViewPath name (table :: path)
      report.name →
      (reports.addViews creates).table? report.name = some report →
      (table :: path).length ≤ 15 → ∀ today terminator,
        (∃ bound, prepare (reports.addViews creates) today
          (.everything name terminator) = .ok bound) ↔
          Composes today report table path := by
  have htraced := Catalog.traced_addViews hreports hnew
  constructor
  · obtain ⟨path, goal, hpath⟩ := htraced.path name table htable
    obtain ⟨report, hreport, -⟩ := exists_report_of_viewPath hpath
    obtain rfl := Catalog.name_of_table? hreport
    cases hpath with
    | report hfound hnone =>
        obtain rfl := Option.some.inj (hfound.symm.trans htable)
        simp [Table.isView, hnone] at hview
    | view hfound hsome hrest =>
        obtain rfl := Option.some.inj (hfound.symm.trans htable)
        exact ⟨_, report, .view hfound hsome hrest, hreport⟩
  · intro path report hpath hreport hshort today terminator
    exact exists_prepare_everything_iff htraced hpath hreport hshort
      today terminator

/-- A report of shops, and one of their kinds that lacks the column it
counts. -/
def shopReports : Catalog where
  version := "v1"
  tables := [
    { name := "SHOPS", aggregateColumn := "Id",
      columns := [{ name := "Id" }, { name := "City" }] },
    { name := "KINDS", aggregateColumn := "Id",
      columns := [{ name := "Kind" }] }]

/-- The shops of a city in the last week, and how many there were yesterday. -/
def romanViews : List CreateView :=
  Catalog.viewsOfTexts [
    "CREATE VIEW romans AS SELECT Id, City AS town FROM SHOPS " ++
      "WHERE City = \"Rome\" DURING LAST_7_DAYS",
    "CREATE VIEW total AS SELECT COUNT(*) AS shops FROM romans " ++
      "WHERE town = \"Rome\" DURING YESTERDAY"]

/-- The first of these views as it is stored. -/
def romanShops : Table where
  name := "romans"
  aggregateColumn := "Id"
  columns := [{ name := "Id" }, { name := "City", aliasName := some "town" }]
  view := some {
    source := "SHOPS"
    primaryKey := "Id"
    conditions := [quotedCondition "City" .equal "Rome"]
    during := some (.named .last7Days) }

/-- The second of these views as it is stored. -/
def romanCount : Table where
  name := "total"
  aggregateColumn := "Id"
  columns :=
    [{ name := "*", aliasName := some "shops", method := some "COUNT" }]
  view := some {
    source := "romans"
    primaryKey := "Id"
    conditions := [quotedCondition "town" .equal "Rome"]
    during := some (.named .yesterday) }

theorem exists_prepare_everything_romanCount :
    (∀ table ∈ shopReports.tables, table.view = none) ∧
      (∀ create ∈ romanViews, create.replace = false) ∧
      (shopReports.addViews romanViews).table? "total" = some romanCount ∧
      romanCount.isView = true ∧
      (shopReports.addViews romanViews).ViewPath "total" [romanCount,
        romanShops] "SHOPS" ∧
      (shopReports.addViews romanViews).table? "SHOPS" =
        some shopReports.tables[0] ∧
      Composes Day.epoch shopReports.tables[0] romanCount [romanShops] ∧
      ∃ bound, prepare (shopReports.addViews romanViews) Day.epoch
        (.everything "total" .ending) = .ok bound := by
  have hreports : ∀ table ∈ shopReports.tables, table.view = none := by
    decide +kernel
  obtain ⟨hnew, hshops, hromans, htotal⟩ :
      (∀ create ∈ romanViews, create.replace = false) ∧
        (shopReports.addViews romanViews).table? "SHOPS" =
        some shopReports.tables[0] ∧
        (shopReports.addViews romanViews).table? "romans" = some romanShops ∧
        (shopReports.addViews romanViews).table? "total" = some romanCount := by
    decide +kernel
  have hpath : (shopReports.addViews romanViews).ViewPath "total"
      [romanCount, romanShops] "SHOPS" :=
    .view htotal rfl (.view hromans rfl (.report hshops rfl))
  have hcity : shopReports.tables[0].hasColumn "City" = true := by
    decide +kernel
  have hcomposes : Composes Day.epoch shopReports.tables[0] romanCount
      [romanShops] := by
    refine ⟨?_, ?_, fun _ => by decide +kernel⟩
    · rw [conditionsReach_cons_iff _ _ rfl, conditionsReach_cons_iff _ _ rfl]
      refine ⟨?_, ?_, conditionsReach_nil _⟩
      · intro c hc
        obtain rfl := List.mem_singleton.mp hc
        refine ⟨quotedCondition "City" .equal "Rome", by decide +kernel, ?_,
          hcity⟩
        rintro view ⟨⟩ e he -
        exact (List.mem_singleton.mp he).symm
      · intro c hc
        obtain rfl := List.mem_singleton.mp hc
        exact hcity
    · decide +kernel
  obtain ⟨-, hiff⟩ := exists_prepare_everything_addViews_iff hreports
    hnew htotal rfl
  exact ⟨hreports, hnew, htotal, rfl, hpath, hshops, hcomposes,
    (hiff [romanShops] shopReports.tables[0] hpath hshops
      (by decide) Day.epoch .ending).mpr hcomposes⟩

/-- Views whose clauses do not fit together: a condition on a column that the
report lacks, two conditions on one column, days that do not meet, and rows
that the report cannot count. -/
def misfitViews : List CreateView :=
  Catalog.viewsOfTexts [
    "CREATE VIEW lost AS SELECT Id FROM SHOPS WHERE Town = \"Rome\"",
    "CREATE VIEW june AS SELECT Id, City FROM SHOPS " ++
      "WHERE City = \"Rome\" DURING 20170601, 20170630",
    "CREATE VIEW paris AS SELECT Id FROM june WHERE City = \"Paris\"",
    "CREATE VIEW july AS SELECT Id FROM june DURING 20170701, 20170731",
    "CREATE VIEW kinds AS SELECT Kind AS Id FROM KINDS",
    "CREATE VIEW total AS SELECT COUNT(*) FROM kinds"]

/-- All of them are stored, and four cannot be selected from. -/
theorem not_prepare_everything_misfitViews :
    (∀ table ∈ shopReports.tables, table.view = none) ∧
      (∀ create ∈ misfitViews, create.replace = false) ∧
      (shopReports.addViews misfitViews).tables.map Table.name =
        ["SHOPS", "KINDS", "lost", "june", "paris", "july", "kinds", "total"] ∧
      parseStatement "SELECT * FROM lost" =
        .ok (.select (.everything "lost" .ending)) ∧
      prepare (shopReports.addViews misfitViews) Day.epoch
        (.everything "lost" .ending) =
        .error (.catalog (.unknownColumn "SHOPS" "Town")) ∧
      prepare (shopReports.addViews misfitViews) Day.epoch
        (.everything "paris" .ending) =
        .error (.outOfScope (.filteredByView "City" "june")) ∧
      (prepare (shopReports.addViews misfitViews) Day.epoch
        (.everything "july" .ending)).toOption = none ∧
      prepare (shopReports.addViews misfitViews) Day.epoch
        (.everything "total" .ending) =
        .error (.catalog (.unknownColumn "KINDS" "Id")) := by
  decide +kernel

end Plan

end ReportQuery
