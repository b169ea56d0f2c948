import ReportQuery.Proofs.Plan.Contents
import ReportQuery.Proofs.Plan.Everything
import ReportQuery.Proofs.Plan.PlainView

/-!
# What a statement on a plain view means

A plain view lets through the records of its report that pass its own clauses,
and shows them under its labels. A statement on it gives what it gives on a
report that has these records.
-/

namespace ReportQuery

/-- A record under the labels of a view. -/
def DayRecord.relabel (view : Table) (record : DayRecord) : DayRecord :=
  { record with cell := fun label => record.cell (view.sourceColumn label) }

/-- The contents when a view is a report: its records are those of its source
that pass its own clauses, under its labels. -/
def Contents.withView (contents : Contents) (holds : Comparison) (today : Day)
    (create : CreateView) (view : Table) : Contents := fun name =>
  if name = create.name then
    ((contents create.select.source).filter
      (DayRecord.passes holds today create.select.during
        create.select.conditions)).map (DayRecord.relabel view)
  else contents name

namespace Plan

variable {view report : Table}

/-! ## Records -/

theorem satisfies_relabel {c renamed : Condition}
    (h : renameCondition view c = .ok renamed) (holds : Comparison)
    (record : DayRecord) :
    (record.relabel view).satisfies holds c =
      record.satisfies holds renamed := by
  obtain ⟨column, hcolumn, rfl⟩ := renameCondition_eq_ok_iff.mp h
  have hsource : view.sourceColumn c.column = column.name := by
    rw [Table.sourceColumn, hcolumn]
    rfl
  change holds c.operator c.values c.literal
    (record.cell (view.sourceColumn c.column)) =
    holds c.operator c.values c.literal (record.cell column.name)
  rw [hsource]

theorem all_satisfies_relabel {own renamed : List Condition}
    (h : List.Forall₂ (fun c d => renameCondition view c = .ok d) own renamed)
    (holds : Comparison) (record : DayRecord) :
    own.all ((record.relabel view).satisfies holds) =
      renamed.all (record.satisfies holds) := by
  induction h with
  | nil => rfl
  | cons hrenamed _ ih =>
      rw [List.all_cons, List.all_cons, ih, satisfies_relabel hrenamed]

/-- A record passes merged clauses when it passes those of the view and, under
the labels of the view, those of the statement. -/
theorem passes_of_merge {today : Day} {own shown conditions : List Condition}
    {ownDuring shownDuring during : Option During}
    (hduring : mergeDuring today ownDuring shownDuring = .ok during)
    (hconditions : mergeConditions own shown view = .ok conditions)
    (holds : Comparison) (record : DayRecord) :
    record.passes holds today during conditions =
      ((record.relabel view).passes holds today ownDuring own &&
        record.passes holds today shownDuring shown) := by
  obtain ⟨renamed, added, hrenamed, hadded, rfl⟩ :=
    mergeConditions_eq_ok_iff.mp hconditions
  have hday : (record.relabel view).isDuring today ownDuring =
      record.isDuring today ownDuring := by
    cases ownDuring <;> rfl
  rw [DayRecord.passes, DayRecord.passes, DayRecord.passes,
    isDuring_mergeDuring hduring, all_addedConditions hadded, hday,
    all_satisfies_relabel hrenamed, Bool.and_assoc, Bool.and_assoc]
  congr 1
  rw [Bool.and_left_comm]

/-- The cells of a record in the report columns, under names or under labels. -/
theorem cells_relabel (hview : view.PlainOver report)
    {columns : List TableColumn} (h : ∀ column ∈ columns, column ∈ view.columns)
    (record : DayRecord) :
    (columns.map TableColumn.name).map record.cell =
      (columns.map TableColumn.label).map (record.relabel view).cell := by
  rw [List.map_map, List.map_map]
  refine List.map_congr_left fun column hcolumn => ?_
  exact congrArg record.cell (hview.sourceColumn_label (h column hcolumn)).symm

theorem respond_request (contents : Contents) (holds : Comparison) (today : Day)
    (bound : BoundSelect) :
    contents.respond holds today bound.request =
      ((contents bound.source).filter
        (DayRecord.passes holds today bound.during bound.conditions)).map
          fun record => bound.reportColumns.map record.cell := by
  unfold Contents.respond BoundSelect.request
  simp only [List.map_map]
  rfl

/-- The report has the same records for the unfolded statement as the view, as
a report, for the statement itself. -/
theorem respond_withView (hview : view.PlainOver report) {create : CreateView}
    (hreport : report.name = create.select.source)
    (hname : view.name = create.name) {columns : List TableColumn}
    (hmem : ∀ column ∈ columns, column ∈ view.columns) {today : Day}
    {s r : Select}
    (hduring : mergeDuring today s.during create.select.during = .ok r.during)
    (hconditions : mergeConditions s.conditions create.select.conditions view =
      .ok r.conditions)
    (contents : Contents) (holds : Comparison) :
    contents.respond holds today
        (boundSelect r report (columns.map (originOf report))).request =
      (contents.withView holds today create view).respond holds today
        (boundSelect s view.asReport
          (columns.map TableColumn.exposed)).request := by
  have hmem' : ∀ column ∈ columns.eraseDups, column ∈ view.columns :=
    fun column hcolumn => hmem column (List.mem_eraseDups.mp hcolumn)
  rw [respond_request, respond_request]
  change ((contents report.name).filter _).map
      (fun record =>
        (((columns.map (originOf report)).map TableColumn.name).eraseDups).map
        record.cell) =
    (((contents.withView holds today create view) view.name).filter _).map
      (fun record =>
        (((columns.map TableColumn.exposed).map TableColumn.name).eraseDups).map
        record.cell)
  rw [reportColumns_image hview hmem, reportColumns_asReport hview hmem,
    hreport, hname, Contents.withView, if_pos rfl, List.filter_map,
    List.map_map, List.filter_filter]
  have hfilter : (contents create.select.source).filter
        (DayRecord.passes holds today r.during r.conditions) =
      (contents create.select.source).filter fun record =>
        (DayRecord.passes holds today s.during s.conditions ∘
          DayRecord.relabel view) record &&
          DayRecord.passes holds today create.select.during
            create.select.conditions record :=
    List.filter_congr fun record _ =>
      passes_of_merge hduring hconditions holds record
  change ((contents create.select.source).filter
    (DayRecord.passes holds today r.during r.conditions)).map _ = _
  rw [hfilter]
  exact List.map_congr_left fun record _ => cells_relabel hview hmem' record

/-! ## Conditions -/

theorem hasColumn_of_renamed (hview : view.PlainOver report)
    {own renamed : List Condition}
    (h : List.Forall₂ (fun c d => renameCondition view c = .ok d) own renamed) :
    ∀ d ∈ renamed, report.hasColumn d.column = true := by
  intro d hd
  obtain ⟨c, -, hrename⟩ := List.exists_left_of_forall₂ h hd
  obtain ⟨column, hcolumn, rfl⟩ := renameCondition_eq_ok_iff.mp hrename
  obtain ⟨hmem, -⟩ := Table.mem_of_column? hcolumn
  obtain ⟨horigin, -, -⟩ := originOf_spec hview hmem
  change (report.column? column.name).isSome = true
  rw [horigin]
  rfl

/-- Every condition of the unfolded statement is on a column of the report. -/
theorem hasColumn_of_mergeConditions (hview : view.PlainOver report)
    {own shown conditions : List Condition}
    (hshown : ∀ c ∈ shown, report.hasColumn c.column = true)
    (h : mergeConditions own shown view = .ok conditions) :
    ∀ c ∈ conditions, report.hasColumn c.column = true := by
  obtain ⟨renamed, added, hrenamed, hadded, rfl⟩ :=
    mergeConditions_eq_ok_iff.mp h
  have hall := all_addedConditions hadded fun c => report.hasColumn c.column
  rw [List.all_eq_true.mpr (hasColumn_of_renamed hview hrenamed),
    List.all_eq_true.mpr hshown] at hall
  exact List.all_eq_true.mp hall

/-- Every condition of the statement is on a column of the view as a report. -/
theorem hasColumn_asReport {own shown conditions : List Condition}
    (h : mergeConditions own shown view = .ok conditions) :
    ∀ c ∈ own, view.asReport.hasColumn c.column = true := by
  obtain ⟨renamed, added, hrenamed, -, -⟩ := mergeConditions_eq_ok_iff.mp h
  intro c hc
  obtain ⟨d, -, hrename⟩ := List.exists_right_of_forall₂ hrenamed hc
  obtain ⟨column, hcolumn, -⟩ := renameCondition_eq_ok_iff.mp hrename
  rw [Table.hasColumn, Table.column?_asReport, hcolumn]
  rfl

/-! ## The whole statement -/

/-- Unfolding a plain view preserves meaning: a statement on it is bound to the
report, and gives what it gives on the view as a report with the records that
the view lets through. -/
theorem evaluate_unfold_plainView {catalog catalog' flat : Catalog}
    {create : CreateView} {report view : Table}
    (hreport : catalog.table? create.select.source = some report)
    (hbase : report.view = none)
    (haliases : ∀ column ∈ report.columns, column.aliasName = none)
    (hplain : create.select.Plain)
    (hconditions : ∀ c ∈ create.select.conditions,
      report.hasColumn c.column = true)
    (hadd : catalog.addView create = .ok catalog')
    (hview : catalog'.table? create.name = some view)
    (hlabels : (view.columns.map TableColumn.label).Nodup)
    (hflat : flat.table? create.name = some view.asReport)
    (contents : Contents) (holds : Comparison) (today : Day) {s r : Select}
    (hparsed : s.Parsed) (hs : s.source = create.name)
    (hnames : ∀ item ∈ s.items, item.name ≠ starName)
    (hr : unfold catalog' today s = .ok r) :
    (∃ bound, bind catalog' r = .ok bound) ∧
      evaluate catalog' (contents.respond holds today) r =
        evaluate flat ((contents.withView holds today create view).respond
          holds today) s := by
  obtain ⟨blocks, hdescribes, hfound, hmerge⟩ :=
    unfold_storedView hreport hbase hadd hs hr
  obtain rfl := Option.some.inj (hfound.symm.trans hview)
  have hreport' := Catalog.table?_of_addView hadd hreport hbase
  have hname := Catalog.name_of_table? hreport
  have hover := hdescribes.plainOver hplain haliases hlabels
  have haligned : s.Aligned := hparsed.wellFormed.aligned fun item hitem =>
    SelectItem.isStar_of_name (hnames item hitem)
  obtain ⟨mapped, conditions, during, hmapped, hmergeConditions,
      hmergeDuring, hmerged⟩ :=
    (merge_eq_ok_iff_of_aligned haligned).mp hmerge
  obtain ⟨columns, hcolumns, rfl⟩ :=
    forall₂_mapItem_of_plainOver hover hnames hmapped
  have hlength := hmapped.length_eq
  have hmem := mem_columns_of_named hcolumns
  have hclauses : (create.clauses report).groupBy = [] ∧
      (create.clauses report).orderBy = [] ∧
      (create.clauses report).limit = none :=
        ⟨hplain.groupBy, hplain.orderBy, hplain.limit⟩
  have hbare : (boundSelect r report (columns.map (originOf report))).bare =
      (boundSelect s (create.table report blocks).asReport
        (columns.map TableColumn.exposed)).bare := by
    rw [hmerged]
    refine bare_boundSelect hover hcolumns rfl ?_ ?_ ?_ rfl
    · rw [hclauses.1]
      exact positions_mergeGroupBy_nil (hlength ▸ haligned.groupBy)
    · rw [hclauses.2.1]
      exact places_mergeOrderBy_nil (hlength ▸ haligned.orderBy)
    · rw [hclauses.2.2]
      cases s.limit <;> rfl
  have hrecords := respond_withView hover hname rfl hmem (s := s) (r := r)
    (by rw [hmerged]; exact hmergeDuring)
      (by rw [hmerged]; exact hmergeConditions) contents holds
  have hbind : bind catalog' r =
      .ok (boundSelect r report (columns.map (originOf report))) := by
    refine bind_eq_ok_iff.mpr ⟨report, _, ?_, ?_, ?_, rfl⟩
    · rw [source_of_merge hmerge]
      change catalog'.table? report.name = some report
      rw [hname, hreport']
    · rw [hmerged]
      exact forall₂_boundColumn_image hover hcolumns
    · rw [hmerged]
      exact hasColumn_of_mergeConditions hover hconditions hmergeConditions
  have hbindFlat : bind flat s =
      .ok (boundSelect s (create.table report blocks).asReport
      (columns.map TableColumn.exposed)) :=
    bind_eq_ok_iff.mpr ⟨_, _, hs ▸ hflat,
      forall₂_boundColumn_asReport hnames hcolumns,
      hasColumn_asReport hmergeConditions, rfl⟩
  refine ⟨⟨_, hbind⟩, ?_⟩
  rw [evaluate, evaluate, hbind, hbindFlat]
  change BoundSelect.answer _ _ = BoundSelect.answer _ _
  rw [hrecords, BoundSelect.answer_eq_of_bare_eq hbare]

/-- A plain view of the shops and costs of a day, under given names. -/
def paidView : CreateView where
  replace := false
  name := "PAID"
  columns := ["place", "price"]
  select := {
    items :=
      [{ column := { name := "Shop" } }, { column := { name := "Cost" } }]
    source := "COSTS"
    conditions := [⟨"Day", .equal, ["2017-09-13"], false⟩]
    during := some (.named .last7Days) }

/-- The table of the plain view. -/
def paidTable : Table :=
  paidView.table costCatalog.tables[0] [
    [{ name := "Shop", aliasName := some "place" }],
    [{ name := "Cost", aliasName := some "price", kind := "MONEY" }]]

/-- The costs of two places, greatest sum first. -/
def paidSelect : Select where
  items := [
    { column := { name := "place" } },
    { column := { name := "price", aliasName := some "paid" },
      function := some .sum }]
  source := "PAID"
  conditions := [⟨"place", .isIn, ["a", "b"], false⟩]
  groupBy := [⟨{ name := "place" }, 1⟩]
  orderBy := [⟨⟨{ name := "price", aliasName := some "paid" }, 2⟩, true⟩]

theorem parsed_paidSelect : paidSelect.Parsed := by
  have hparse : parseStatement
      ("SELECT place, SUM(price) AS paid FROM PAID " ++
        "WHERE place IN [\"a\", \"b\"] GROUP BY 1 ORDER BY 2 DESC") = .ok (.select paidSelect) := by
    decide +kernel
  exact Or.inl (parsed_of_parseStatement hparse)

/-- A cost of a shop, at some days from the start of 1970. -/
def paidRecord (days : Int) (shop cost : String) : DayRecord where
  day := Day.ofCount days
  cell name :=
    if name = "Shop" then shop else if name = "Day" then "2017-09-13" else cost

/-- Costs of three shops, the last of them long ago. -/
def paidContents : Contents := fun _ =>
  [paidRecord 17422 "a" "10", paidRecord 17422 "b" "20",
    paidRecord 17422 "a" "30", paidRecord 17422 "c" "40",
    paidRecord 17400 "b" "50"]

/-- The day behind that of the costs. -/
def paidToday : Day :=
  Day.ofCount 17423

/-- A value passes a condition that lists it. -/
def listed : Comparison := fun _ values _ raw => decide (raw ∈ values)

/-- The catalog with the plain view. -/
def paidCatalog : Catalog :=
  { costCatalog with tables := costCatalog.tables ++ [paidTable] }

/-- A catalog in which the plain view is a report. -/
def flatCatalog : Catalog where
  version := "v1"
  tables := [paidTable.asReport]

theorem evaluate_unfold_paidView :
    costCatalog.addView paidView = .ok paidCatalog ∧
      ∃ r set, unfold paidCatalog paidToday paidSelect = .ok r ∧
        evaluate paidCatalog (paidContents.respond listed paidToday) r =
          .ok set ∧
        evaluate flatCatalog
          ((paidContents.withView listed paidToday paidView paidTable).respond
            listed paidToday) paidSelect = .ok set ∧
        set.rows.length = 2 := by
  have hadd : costCatalog.addView paidView = .ok paidCatalog := by
    decide +kernel
  have hgrouped : ((unfold paidCatalog paidToday paidSelect).bind fun r =>
      (bind paidCatalog r).bind fun bound =>
        (bound.aggregate (paidContents.respond listed paidToday
          bound.request)).map fun rows =>
            (rows.length, bound.limit)).toOption = some (2, none) := by
    decide +kernel
  refine ⟨hadd, ?_⟩
  cases hr : unfold paidCatalog paidToday paidSelect with
  | error error => simp [hr, Except.bind] at hgrouped
  | ok r =>
      have hreport : costCatalog.table? "COSTS" =
          some costCatalog.tables[0] := by
        decide +kernel
      have hplain : paidView.select.Plain := by
        refine ⟨?_, ?_, ?_, ?_, rfl, rfl, rfl⟩ <;> decide +kernel
      have hview : paidCatalog.table? "PAID" = some paidTable := by
        decide +kernel
      have hflat : flatCatalog.table? "PAID" = some paidTable.asReport := by
        decide +kernel
      obtain ⟨⟨bound, hbound⟩, hsame⟩ := evaluate_unfold_plainView hreport
        (by decide +kernel) (by decide +kernel) hplain (by decide +kernel) hadd
        hview (by decide +kernel) hflat paidContents listed paidToday
        parsed_paidSelect rfl (by decide +kernel) hr
      simp only [hr, hbound, Except.bind] at hgrouped
      cases hrows : bound.aggregate
          (paidContents.respond listed paidToday bound.request) with
      | error error => simp [hrows] at hgrouped
      | ok rows =>
          obtain ⟨hlength, hlimit⟩ : rows.length = 2 ∧ bound.limit = none := by
            simpa [hrows] using hgrouped
          obtain ⟨set, hset, hperm⟩ : ∃ set,
              evaluate paidCatalog (paidContents.respond listed paidToday) r =
                .ok set ∧ set.rows.Perm rows := by
            simp only [evaluate, hbound, Except.bind, BoundSelect.answer, hrows,
              hlimit, Except.map]
            exact ⟨_, rfl, ResultSet.perm_rows_sort _ _⟩
          exact ⟨r, set, rfl, hset, hsame.symm.trans hset,
            hperm.length_eq.trans hlength⟩

end Plan

end ReportQuery
