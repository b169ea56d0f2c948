import ReportQuery.Proofs.Catalog.Soundness
import ReportQuery.Proofs.Plan.Bind
import ReportQuery.Proofs.Plan.Conditions
import ReportQuery.Proofs.Statement.RoundTrip

/-!
# The query that the service is asked with

A bound statement asks its report for columns, under the conditions and the
days of the unfolded statement. The text that is sent is parsed to just this
statement, whichever views were gone through: they are stored from texts, so
their values and days can be written again, and on the way down a condition
changes its column and nothing else. Days meet by their later and earlier ends,
which have four-digit years as long as the current day leaves room for the
named ranges.

The two halves of the argument meet at the statement that the service is asked
with: it is well formed, and well-formed statements are read back from their
text.
-/

namespace ReportQuery

open ReportQuery.Calendar

/-- A report that a statement can ask: names and columns are spelled as
identifiers. -/
structure Table.IsReport (table : Table) : Prop where
  view : table.view = none
  name : IsIdentifier table.name
  columns_ne_nil : table.columns ≠ []
  columns : ∀ column ∈ table.columns, column.aliasName = none ∧
    IsIdentifier column.name

/-- The values of a condition can be written, whatever its column is. -/
structure Condition.ValuesWellFormed (c : Condition) : Prop where
  values : c.values ≠ []
  bare : c.literal = true → ∀ value ∈ c.values, IsBareValue value

/-- A table with columns; the conditions and the days of a view can be
written. -/
structure Table.Sendable (table : Table) : Prop where
  columns : table.columns ≠ []
  conditions : ∀ view ∈ table.view, ∀ c ∈ view.conditions, c.ValuesWellFormed
  during : ∀ view ∈ table.view, ∀ during ∈ view.during, during.WellFormed

/-- A statement with entries whose conditions and days can be written. -/
structure Select.Sendable (s : Select) : Prop where
  items : s.items ≠ []
  conditions : ∀ c ∈ s.conditions, c.ValuesWellFormed
  during : ∀ during ∈ s.during, during.WellFormed

/-- A catalog of reports with sendable views on top. -/
def Catalog.Over (reports catalog : Catalog) : Prop :=
  ∀ table ∈ catalog.tables, table.Sendable ∧
    (table.view = none → table ∈ reports.tables)

theorem Condition.WellFormed.valuesWellFormed {c : Condition}
    (h : c.WellFormed) : c.ValuesWellFormed :=
  ⟨h.values, h.bare⟩

theorem Select.WellFormed.sendable {s : Select} (h : s.WellFormed) :
    s.Sendable where
  items := h.items_ne_nil
  conditions := fun c hc => (h.conditions c hc).valuesWellFormed
  during := h.during

namespace Catalog

variable {reports catalog catalog' : Catalog}

/-! ## Stored views -/

theorem columns_ne_nil_of_describes {create : CreateView} {source : Table}
    {blocks : List (List TableColumn)} (h : create.Describes source blocks)
    (hsource : source.columns ≠ []) (hitems : create.select.items ≠ []) :
    blocks.flatten ≠ [] := by
  intro hnil
  obtain ⟨item, rest, hcons⟩ := List.exists_cons_of_ne_nil hitems
  have hentry : (item, 0) ∈ create.select.items.zipIdx := by simp [hcons]
  obtain ⟨block, hblock, hcolumns⟩ :=
    List.exists_right_of_forall₂ h.blocks hentry
  obtain rfl : block = [] := List.flatten_eq_nil_iff.mp hnil block hblock
  rw [Table.viewColumns] at hcolumns
  split at hcolumns
  · split at hcolumns
    · exact hsource (List.map_eq_nil_iff.mp (Except.ok.inj hcolumns))
    · simp at hcolumns
  · obtain ⟨column, -, hsingle⟩ := Except.map_eq_ok_iff.mp hcolumns
    exact absurd hsingle (List.cons_ne_nil column [])

theorem sendable_table {create : CreateView} {source : Table}
    {blocks : List (List TableColumn)} (hcreate : create.WellFormed)
    (h : create.Describes source blocks) (hsource : source.columns ≠ []) :
    (create.table source blocks).Sendable := by
  have hselect := hcreate.select.sendable
  refine ⟨columns_ne_nil_of_describes h hsource hselect.items, ?_, ?_⟩
  · intro view hview
    obtain rfl := Option.some.inj hview
    exact hselect.conditions
  · intro view hview
    obtain rfl := Option.some.inj hview
    exact hselect.during

theorem Over.addView (h : reports.Over catalog) {create : CreateView}
    (hcreate : (Statement.createView create).Parsed)
    (hadd : catalog.addView create = .ok catalog') : reports.Over catalog' := by
  obtain ⟨-, source, blocks, hsource, hdescribes, rfl⟩ :=
    addView_eq_ok_iff.mp hadd
  intro table htable
  rcases eq_or_mem_of_mem_put htable with rfl | hold
  · have hcolumns := (h source (List.mem_of_find?_eq_some hsource)).1.columns
    exact ⟨sendable_table hcreate.wellFormed hdescribes hcolumns, nofun⟩
  · exact h table hold

theorem over_addViews (hreports : ∀ report ∈ reports.tables, report.IsReport)
    {creates : List CreateView}
    (hcreates : ∀ create ∈ creates, (Statement.createView create).Parsed) :
    reports.Over (reports.addViews creates) := by
  refine addViews_induction reports.Over
    (fun create => (Statement.createView create).Parsed)
    (fun _ _ _ hbefore => hbefore.addView) ?_ hcreates
  intro report hreport
  have hisReport := hreports report hreport
  refine ⟨⟨hisReport.columns_ne_nil, ?_, ?_⟩, fun _ => hreport⟩
  · intro view hview
    simp [hisReport.view] at hview
  · intro view hview
    simp [hisReport.view] at hview

end Catalog

namespace Plan

/-! ## Going through a view -/

theorem valuesWellFormed_of_below {table : Table} {c d : Condition}
    (hc : c.ValuesWellFormed) (h : c.below [table] = some d) :
    d.ValuesWellFormed := by
  obtain ⟨column, -, rfl⟩ := Option.map_eq_some_iff.mp h
  exact ⟨hc.values, hc.bare⟩

theorem inFourDigits_resolveDays {today : Day} (hfirst : 1 ≤ today.civil.year)
    (hlast : today.civil.year ≤ 9999) {during : During}
    (h : during.WellFormed) :
    InFourDigits (resolveDays today during).start ∧
      InFourDigits (resolveDays today during).stop := by
  cases during with
  | named range => exact range.inFourDigits_resolve hfirst hlast
  | days span => exact h

theorem wellFormed_of_resolveDays {today : Day} {during : During}
    (hstart : InFourDigits (resolveDays today during).start)
    (hstop : InFourDigits (resolveDays today during).stop) :
    during.WellFormed := by
  cases during with
  | named range => trivial
  | days span => exact ⟨hstart, hstop⟩

/-- The days that two clauses have in common begin and end with days of the
two. -/
theorem wellFormed_of_mergeDuring {today : Day} (hfirst : 1 ≤ today.civil.year)
    (hlast : today.civil.year ≤ 9999) {own shown merged : Option During}
    (hown : ∀ during ∈ own, during.WellFormed)
    (hshown : ∀ during ∈ shown, during.WellFormed)
    (h : mergeDuring today own shown = .ok merged) :
    ∀ during ∈ merged, during.WellFormed := by
  cases own with
  | none =>
      rw [mergeDuring_none] at h
      exact Except.ok.inj h ▸ hshown
  | some a =>
      cases shown with
      | none => exact Except.ok.inj h ▸ hown
      | some b =>
          rcases mergeDuring_cases today a b with
            ⟨-, common, hmerge, hcommon⟩ | ⟨-, hmerge⟩
          · rw [hmerge] at h
            obtain rfl := Except.ok.inj h
            rintro during ⟨⟩
            obtain ⟨hastart, hastop⟩ :=
              inFourDigits_resolveDays hfirst hlast (hown a rfl)
            obtain ⟨hbstart, hbstop⟩ :=
              inFourDigits_resolveDays hfirst hlast (hshown b rfl)
            apply wellFormed_of_resolveDays
            · rw [hcommon, DaySpan.common, Day.later]
              split
              · exact hbstart
              · exact hastart
            · rw [hcommon, DaySpan.common, Day.earlier]
              split
              · exact hastop
              · exact hbstop
          · rw [hmerge] at h
            cases h

theorem items_ne_nil_of_merge {today : Day} {s r : Select} {table : Table}
    {view : View} (hs : s.items ≠ []) (hcolumns : table.columns ≠ [])
    (h : merge today s table view = .ok r) : r.items ≠ [] := by
  obtain ⟨blocks, conditions, during, hblocks, -, -, rfl⟩ :=
    merge_eq_ok_iff.mp h
  obtain ⟨item, rest, hcons⟩ := List.exists_cons_of_ne_nil hs
  obtain ⟨block, hblock, himages⟩ :=
    List.exists_right_of_forall₂ hblocks (hcons ▸ List.mem_cons_self)
  intro hnil
  obtain rfl : block = [] := List.flatten_eq_nil_iff.mp hnil block hblock
  rcases images_eq_ok_iff.mp himages with ⟨-, hexpanded⟩ | ⟨-,
    image, -, hsingle⟩
  · exact hcolumns (List.forall₂_nil_right_iff.mp hexpanded)
  · exact absurd hsingle (List.cons_ne_nil image [])

/-- A sendable statement stays sendable as it goes through a sendable view. -/
theorem sendable_of_merge {today : Day} (hfirst : 1 ≤ today.civil.year)
    (hlast : today.civil.year ≤ 9999) {s r : Select} {table : Table}
    {view : View} (hs : s.Sendable) (htable : table.Sendable)
    (hview : table.view = some view) (h : merge today s table view = .ok r) :
    r.Sendable := by
  have hitems := items_ne_nil_of_merge hs.items htable.columns h
  obtain ⟨blocks, conditions, during, -, hconditions, hduring, rfl⟩ :=
    merge_eq_ok_iff.mp h
  refine ⟨hitems, ?_, ?_⟩
  · rw [forall_mem_mergeConditions_iff hconditions]
    refine ⟨?_, htable.conditions view hview⟩
    intro c hc
    obtain ⟨renamed, added, hrenamed, -, -⟩ :=
      mergeConditions_eq_ok_iff.mp hconditions
    obtain ⟨d, -, hd⟩ := List.exists_right_of_forall₂ hrenamed hc
    have hbelow := renameCondition_eq_ok_iff_below.mp hd
    exact ⟨d, hbelow, valuesWellFormed_of_below (hs.conditions c hc) hbelow⟩
  · exact wellFormed_of_mergeDuring hfirst hlast hs.during
      (htable.during view hview) hduring

/-! ## The statement that the service is asked with -/

theorem isIdentifier_of_column? {report : Table} (hreport : report.IsReport)
    {label : String} {column : TableColumn}
    (h : report.column? label = some column) :
    column.name = label ∧ IsIdentifier column.name := by
  obtain ⟨hmem, hlabel⟩ := Table.mem_of_column? h
  obtain ⟨halias, hname⟩ := hreport.columns column hmem
  rw [TableColumn.label, halias] at hlabel
  exact ⟨hlabel, hname⟩

theorem isIdentifier_of_boundColumn {report : Table} (hreport : report.IsReport)
    {item : SelectItem} {column : TableColumn}
    (h : boundColumn report item = .ok column) : IsIdentifier column.name := by
  rw [boundColumn] at h
  split at h
  · simp at h
  · rw [Except.mapError_eq_ok_iff, Table.column] at h
    split at h
    · next found hfound =>
        obtain rfl := Except.ok.inj h
        exact (isIdentifier_of_column? hreport hfound).2
    · simp at h

theorem wellFormed_request {r : Select} (hr : r.Sendable) {report : Table}
    (hreport : report.IsReport) {columns : List TableColumn}
    (hcolumns : List.Forall₂
      (fun item column => boundColumn report item = .ok column) r.items
      columns)
    (hconditions : ∀ c ∈ r.conditions, report.hasColumn c.column = true) :
    (boundSelect r report columns).request.WellFormed := by
  have hnames : ∀ name ∈ (columns.map TableColumn.name).eraseDups,
      IsIdentifier name := by
    intro name hname
    obtain ⟨column, hcolumn, rfl⟩ :=
      List.mem_map.mp (List.mem_eraseDups.mp hname)
    obtain ⟨item, -, hitem⟩ := List.exists_left_of_forall₂ hcolumns hcolumn
    exact isIdentifier_of_boundColumn hreport hitem
  refine ⟨?_, ?_, hreport.name, ?_, hr.during, nofun, nofun, nofun⟩
  · obtain ⟨item, rest, hcons⟩ := List.exists_cons_of_ne_nil hr.items
    obtain ⟨column, hcolumn, -⟩ :=
      List.exists_right_of_forall₂ hcolumns (hcons ▸ List.mem_cons_self)
    have hmem : column.name ∈ (columns.map TableColumn.name).eraseDups :=
      List.mem_eraseDups.mpr (List.mem_map_of_mem hcolumn)
    intro hnil
    have hnone : (columns.map TableColumn.name).eraseDups = [] :=
      List.map_eq_nil_iff.mp hnil
    rw [hnone] at hmem
    exact absurd hmem List.not_mem_nil
  · intro item hitem
    obtain ⟨name, hname, rfl⟩ := List.mem_map.mp hitem
    exact SelectItem.WellFormed.of_isIdentifier (hnames name hname) false
  · intro c hc
    obtain ⟨column, hcolumn⟩ := Option.isSome_iff_exists.mp (hconditions c hc)
    obtain ⟨hname, hidentifier⟩ := isIdentifier_of_column? hreport hcolumn
    obtain ⟨hvalues, hbare⟩ := hr.conditions c hc
    exact ⟨hname ▸ hidentifier, hvalues, hbare⟩

/-- Of plain columns without clauses but WHERE and DURING the reduced text
leaves nothing out. -/
theorem query_eq_text (bound : BoundSelect) :
    bound.query = bound.request.text := by
  have hitems : bound.request.items.map SelectItem.text =
      bound.request.items.map SelectItem.name := by
    apply List.map_congr_left
    intro item hitem
    obtain ⟨name, -, rfl⟩ := List.mem_map.mp hitem
    simp [SelectItem.text, SelectItem.name]
  simp only [BoundSelect.query, Select.reducedText, Select.text, hitems]
  simp [BoundSelect.request, Select.groupByText, Select.orderByText,
    Select.limitText, Select.clauseText]

/-- The query of a bound statement is parsed to the statement that asks the
report for its columns: plain columns, the conditions and the days of the
unfolded statement, and nothing else. -/
theorem parseStatement_query {reports : Catalog}
    (hreports : ∀ report ∈ reports.tables, report.IsReport)
    {creates : List CreateView}
    (hcreates : ∀ create ∈ creates, (Statement.createView create).Parsed)
    {today : Day} (hfirst : 1 ≤ today.civil.year)
    (hlast : today.civil.year ≤ 9999) {s r : Select} (hs : s.Parsed)
    (hunfold : unfold (reports.addViews creates) today s = .ok r)
    {bound : BoundSelect}
    (hbind : bind (reports.addViews creates) r = .ok bound) :
    (∃ report ∈ reports.tables, report.name = r.source) ∧
      parseStatement bound.query = .ok (.select {
        items := bound.reportColumns.map fun name => { column := { name } }
        source := r.source
        conditions := r.conditions
        during := r.during }) := by
  have hover := Catalog.over_addViews hreports hcreates
  obtain ⟨hr, report, hreport, hview⟩ := unfoldWithin_induction Select.Sendable
    (fun t table view merged htable hview hmerge ht =>
      sendable_of_merge hfirst hlast ht
        (hover table (List.mem_of_find?_eq_some htable)).1 hview hmerge)
    hs.wellFormed.sendable hunfold
  have hmem := (hover report (List.mem_of_find?_eq_some hreport)).2 hview
  have hsource := Catalog.name_of_table? hreport
  obtain ⟨table, columns, htable, hcolumns, hconditions, rfl⟩ :=
    bind_eq_ok_iff.mp hbind
  obtain rfl := Option.some.inj (hreport.symm.trans htable)
  refine ⟨⟨report, hmem, hsource⟩, ?_⟩
  have hrequest := wellFormed_request hr (hreports report hmem)
    hcolumns hconditions
  have hcounts : ∀ item ∈ (boundSelect r report columns).request.items,
      item.CountsStar := by
    intro item hitem _
    obtain ⟨name, -, rfl⟩ := List.mem_map.mp hitem
    exact Or.inl rfl
  have hread := readsAs_select hrequest hcounts
    (by rintro (hne | hne) <;> exact absurd rfl hne)
  rw [query_eq_text, parseStatement_of_readsAs hread, ← hsource]
  rfl

/-- A report of cargo. -/
def cargoReports : Catalog where
  version := "v1"
  tables := [{
    name := "CARGO"
    aggregateColumn := "Port"
    columns := [{ name := "Port" }, { name := "Line" },
      { name := "Weight", kind := "LONG" }] }]

/-- A view of the heaviest cargo in each port within the last thirty days. -/
def heavyView : CreateView where
  replace := false
  name := "heavy"
  columns := ["harbour", "top"]
  select := {
    items := [
      { column := { name := "Port" } },
      { column := { name := "Weight" }, function := some .max }]
    source := "CARGO"
    conditions := [
      { column := "Line", operator := .isIn, values := ["A \"1\"", "B"],
        literal := false }]
    during := some (.named .last30Days)
    groupBy := [⟨{ name := "Port" }, 1⟩] }

def heavySelect : Select where
  items := [{ column := { name := "harbour" } },
    { column := { name := "top" } }]
  source := "heavy"
  conditions := [
    { column := "harbour", operator := .different, values := ["Oslo"],
      literal := true }]
  during := some (.days ⟨Day.ofCount 19723, Day.ofCount 20088⟩)
  orderBy := [⟨⟨{ name := "top" }, 2⟩, true⟩]
  limit := some ⟨0, 3⟩

/-- The statement on the report, with the view's condition and the days that
both allow. -/
def heavyUnfolded : Select where
  items := [
    { column := { name := "Port", aliasName := some "harbour" } },
    { column := { name := "Weight", aliasName := some "top" },
      function := some .max }]
  source := "CARGO"
  conditions := [
    { column := "Port", operator := .different, values := ["Oslo"],
      literal := true },
    { column := "Line", operator := .isIn, values := ["A \"1\"", "B"],
      literal := false }]
  during := some (.days ⟨Day.ofCount 19752, Day.ofCount 19781⟩)
  groupBy := [⟨{ name := "Port", aliasName := some "harbour" }, 1⟩]
  orderBy := [⟨⟨{ name := "Weight", aliasName := some "top" }, 2⟩, true⟩]
  limit := some ⟨0, 3⟩

theorem isReport_cargoReports :
    ∀ report ∈ cargoReports.tables, report.IsReport := by
  have hnames : ∀ name ∈ ["CARGO", "Port", "Line", "Weight"],
      IsIdentifier name := by
    intro name hname
    simp only [List.mem_cons, List.not_mem_nil, or_false] at hname
    rcases hname with rfl | rfl | rfl | rfl <;>
      exact ⟨⟨_, _, rfl, by decide⟩, List.all_eq_true.mp (by decide), by decide⟩
  intro report hreport
  obtain rfl := List.mem_singleton.mp hreport
  refine ⟨rfl, hnames _ (by simp), by simp, ?_⟩
  intro column hcolumn
  simp only [List.mem_cons, List.not_mem_nil, or_false] at hcolumn
  rcases hcolumn with rfl | rfl | rfl <;> exact ⟨rfl, hnames _ (by simp)⟩

theorem parseStatement_query_heavySelect :
    unfold (cargoReports.addViews [heavyView]) (Day.ofCount 19782) heavySelect =
        .ok heavyUnfolded ∧
      ∃ bound, bind (cargoReports.addViews [heavyView]) heavyUnfolded =
        .ok bound ∧
        bound.query =
          "SELECT Port, Weight FROM CARGO WHERE Port != Oslo AND " ++
          "Line IN [\"A \\\"1\\\"\", \"B\"] DURING 20240130,20240228" ∧
        parseStatement bound.query = .ok (.select {
          items :=
            [{ column := { name := "Port" } },
              { column := { name := "Weight" } }]
          source := "CARGO"
          conditions := heavyUnfolded.conditions
          during := heavyUnfolded.during }) := by
  have hview :
      parseStatement
        ("CREATE VIEW heavy (harbour, top) AS SELECT Port, MAX(Weight) " ++
          "FROM CARGO WHERE Line IN ['A \"1\"', 'B'] DURING LAST_30_DAYS " ++
          "GROUP BY Port") =
        .ok (.createView heavyView) := by
    decide +kernel
  have hselect :
      parseStatement ("SELECT harbour, top FROM heavy WHERE harbour != Oslo " ++
      "DURING 20240101, 20241231 ORDER BY top DESC LIMIT 3") =
      .ok (.select heavySelect) := by
    decide +kernel
  have hcreates : ∀ create ∈ [heavyView],
      (Statement.createView create).Parsed := by
    intro create hcreate
    obtain rfl := List.mem_singleton.mp hcreate
    exact parsed_of_parseStatement hview
  have hs : heavySelect.Parsed := Or.inl (parsed_of_parseStatement hselect)
  have hunfold : unfold (cargoReports.addViews [heavyView]) (Day.ofCount 19782)
      heavySelect = .ok heavyUnfolded := by
    decide +kernel
  have hbound :
      (bind (cargoReports.addViews [heavyView]) heavyUnfolded).toOption.map
      (fun bound => (bound.reportColumns, bound.query)) =
      some (["Port", "Weight"],
        "SELECT Port, Weight FROM CARGO WHERE Port != Oslo AND " ++
          "Line IN [\"A \\\"1\\\"\", \"B\"] DURING 20240130,20240228") := by
    decide +kernel
  refine ⟨hunfold, ?_⟩
  cases hbind : bind (cargoReports.addViews [heavyView]) heavyUnfolded with
  | error error => simp [hbind] at hbound
  | ok bound =>
      rw [hbind] at hbound
      obtain ⟨hcolumns, hquery⟩ := Prod.mk.inj (Option.some.inj hbound)
      obtain ⟨-, hparse⟩ := parseStatement_query isReport_cargoReports hcreates
        (by decide +kernel) (by decide +kernel) hs hunfold hbind
      rw [hcolumns] at hparse
      exact ⟨bound, rfl, hquery, hparse⟩

end Plan

end ReportQuery
