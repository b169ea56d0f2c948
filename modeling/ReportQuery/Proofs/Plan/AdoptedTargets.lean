import ReportQuery.Proofs.Plan.Everything

/-!
# Targets that a view's clauses keep

A statement without GROUP BY or ORDER BY takes over those of the view. Every
column of a stored view belongs to an entry of the view's SELECT, and every
output column of a statement on the view shows a column of the view, so that it
is known which output columns stand for which entry.

A target is looked up by the name of its source column. It is kept exactly when
the first output column with this source column stands for the entry that the
clause names.
-/

namespace ReportQuery

/-- The columns of a view that an entry of a statement on it shows, by index;
`COUNT(*)` shows none. -/
def Table.origins (view : Table) (item : SelectItem) : List (Option Nat) :=
  if item.isStar then (List.range view.columns.length).map some
  else if item.name == starName then [none]
  else [view.columns.findIdx? fun column => column.label == item.name]

/-- The source column of an output column with an origin. -/
def Table.originName (view : Table) (origin : Option Nat) : String :=
  ((origin.bind fun k => view.columns[k]?).map TableColumn.name).getD starName

/-- For every output column of a statement on a view the column of the view
that it shows. -/
def Select.origins (s : Select) (view : Table) : List (Option Nat) :=
  s.items.flatMap view.origins

namespace CreateView

/-- For every column of the view the index of the entry that became it. -/
def entries (create : CreateView) (source : Table) : List Nat :=
  create.select.items.zipIdx.flatMap fun entry =>
    List.replicate (if entry.1.isStar then source.columns.length else 1) entry.2

/-- The positions that the clauses of the view refer to. -/
def targets (create : CreateView) : List ColumnPosition :=
  create.select.groupBy ++ create.select.orderBy.map OrderEntry.target

/-- An output column of a statement on the view stands for an entry of the
view's SELECT, both by index. -/
def StandsFor (create : CreateView) (source view : Table) (s : Select)
    (output entry : Nat) : Prop :=
  ∃ k, (s.origins view)[output]? = some (some k) ∧
    (create.entries source)[k]? = some entry

/-- A target of the view moves to an output column that stands for its entry,
or nowhere when there is none. -/
structure KeepsTarget (create : CreateView) (source view : Table) (s r : Select)
    (p : ColumnPosition) : Prop where
  kept : ∀ q, Plan.adoptPosition view r.items p = some q →
    create.StandsFor source view s (q.position - 1) (p.position - 1)
  dropped :
    (∀ output, ¬ create.StandsFor source view s output (p.position - 1)) →
    Plan.adoptPosition view r.items p = none

/-- The first output column with the source column of a target belongs to the
target's entry. -/
def FirstShownBelongs (create : CreateView) (source view : Table) (s : Select)
    (p : ColumnPosition) : Prop :=
  ∀ origin,
    (s.origins view).find?
      (fun origin => view.originName origin == Plan.sourceName view p) =
        some origin →
      ∃ k, origin = some k ∧ (create.entries source)[k]? = some (p.position - 1)

end CreateView

namespace Plan

/-! ## Source columns of the output -/

theorem originNames_range (view : Table) :
    ((List.range view.columns.length).map some).map view.originName =
      view.columns.map TableColumn.name := by
  apply List.ext_getElem
  · simp
  · intro k hk hk'
    have hlt : k < view.columns.length := by simpa using hk'
    simp [Table.originName, hlt]

theorem originName_findIdx? {view : Table} {label : String}
    {column : TableColumn} (h : view.column? label = some column) :
    view.originName (view.columns.findIdx? fun other => other.label == label) =
      column.name := by
  obtain ⟨hlabel, k, hk, hcolumn, hbefore⟩ :=
    List.find?_eq_some_iff_getElem.mp h
  have hfound : (view.columns.findIdx? fun other => other.label == label) =
      some k := by
    rw [List.findIdx?_eq_some_iff_getElem]
    refine ⟨hk, hcolumn ▸ hlabel, ?_⟩
    intro j hj
    simpa using hbefore j hj
  rw [hfound]
  simp [Table.originName, hk, hcolumn]

theorem names_of_images {view : Table} {item : SelectItem}
    {block : List SelectItem} (h : images view item = .ok block) :
    block.map SelectItem.name = (view.origins item).map view.originName := by
  rw [Table.origins]
  rcases images_eq_ok_iff.mp h with ⟨hstar, hexpanded⟩ | ⟨hstar, image,
    himage, rfl⟩
  · rw [if_pos hstar, originNames_range]
    exact names_of_expandColumns (Except.mapM_eq_ok_iff.mpr hexpanded)
  · rw [if_neg (by simp [hstar])]
    rcases mapItem_eq_ok_iff.mp himage with ⟨hname, rfl⟩ | ⟨hname, column,
      hcolumn, hmap⟩
    · rw [if_pos (by simp [hname])]
      simp [Table.originName, hname]
    · obtain ⟨function, -, rfl⟩ := Except.map_eq_ok_iff.mp hmap
      rw [if_neg (by simp [hname]), List.map_singleton, List.map_singleton,
        originName_findIdx? hcolumn]
      rfl

theorem names_of_blocks {view : Table} {items : List SelectItem}
    {blocks : List (List SelectItem)}
    (h : List.Forall₂ (fun item block => images view item = .ok block)
      items blocks) :
    blocks.flatten.map SelectItem.name =
      (items.flatMap view.origins).map view.originName := by
  induction h with
  | nil => rfl
  | cons hblock _ ih =>
      rw [List.flatten_cons, List.map_append, names_of_images hblock, ih,
        List.flatMap_cons, List.map_append]

/-- The names of the output columns are those of the source columns that they
show. -/
theorem names_of_merge {today : Day} {s r : Select} {table : Table}
    {view : View} (h : merge today s table view = .ok r) :
    r.items.map SelectItem.name = (s.origins table).map table.originName := by
  obtain ⟨blocks, conditions, during, hblocks, -, -, rfl⟩ :=
    merge_eq_ok_iff.mp h
  exact names_of_blocks hblocks

/-! ## Where a target moves -/

theorem adoptPosition_eq_some_iff {table : Table} {items : List SelectItem}
    {p q : ColumnPosition} :
    adoptPosition table items p = some q ↔
      ∃ j, (items.findIdx? fun item => item.name == sourceName table p) =
        some j ∧ positionAt? items j = some q :=
  Option.bind_eq_some_iff

theorem findIdx?_names_of_merge {today : Day} {s r : Select} {table : Table}
    {view : View} (h : merge today s table view = .ok r) (name : String) :
    (r.items.findIdx? fun item => item.name == name) =
      (s.origins table).findIdx? fun origin =>
        table.originName origin == name := by
  have hnames := congrArg (List.findIdx? (· == name)) (names_of_merge h)
  rw [List.findIdx?_map, List.findIdx?_map] at hnames
  exact hnames

theorem find?_of_findIdx? {origins : List (Option Nat)}
    {test : Option Nat → Bool} {j : Nat} (h : origins.findIdx? test = some j) :
    ∃ origin, origins[j]? = some origin ∧ origins.find? test = some origin := by
  obtain ⟨hlt, htest, hbefore⟩ := List.findIdx?_eq_some_iff_getElem.mp h
  refine ⟨origins[j], List.getElem?_eq_getElem hlt, ?_⟩
  rw [List.find?_eq_some_iff_getElem]
  refine ⟨htest, j, hlt, rfl, ?_⟩
  intro i hi
  simpa using hbefore i hi

/-- A target is kept exactly when the first output column with its source
column belongs to its entry. -/
theorem keepsTarget_iff {create : CreateView} {source table : Table}
    {today : Day} {s r : Select} {view : View}
    (h : merge today s table view = .ok r) (p : ColumnPosition) :
    create.KeepsTarget source table s r p ↔
      create.FirstShownBelongs source table s p := by
  have hindex := findIdx?_names_of_merge h (sourceName table p)
  constructor
  · intro hkeeps origin horigin
    have hmem := List.mem_of_find?_eq_some horigin
    have htest := List.find?_some horigin
    cases hfound : (s.origins table).findIdx? fun origin =>
        table.originName origin == sourceName table p with
    | none =>
        rw [List.findIdx?_eq_none_iff] at hfound
        exact absurd htest (by simp [hfound origin hmem])
    | some j =>
        obtain ⟨other, hother, hfirst⟩ := find?_of_findIdx? hfound
        obtain rfl := Option.some.inj (horigin.symm.trans hfirst)
        rw [hfound] at hindex
        obtain ⟨hlt, -⟩ := List.findIdx?_eq_some_iff_getElem.mp hindex
        obtain ⟨k, hk, hentry⟩ := hkeeps.kept ⟨r.items[j].column, j + 1⟩
          (adoptPosition_eq_some_iff.mpr
            ⟨j, hindex, positionAt?_eq_some_iff.mpr ⟨hlt, rfl⟩⟩)
        exact ⟨k, Option.some.inj (hother.symm.trans hk), hentry⟩
  · intro hbelongs
    have hkept : ∀ q, adoptPosition table r.items p = some q →
        create.StandsFor source table s (q.position - 1) (p.position - 1) := by
      intro q hq
      obtain ⟨j, hj, hposition⟩ := adoptPosition_eq_some_iff.mp hq
      obtain ⟨hlt, rfl⟩ := positionAt?_eq_some_iff.mp hposition
      obtain ⟨origin, horigin, hfirst⟩ :=
        find?_of_findIdx? (hindex.symm.trans hj)
      obtain ⟨k, rfl, hentry⟩ := hbelongs origin hfirst
      exact ⟨k, horigin, hentry⟩
    refine ⟨hkept, ?_⟩
    intro hnone
    cases hq : adoptPosition table r.items p with
    | none => rfl
    | some q => exact absurd (hkept q hq) (hnone (q.position - 1))

/-! ## Statements on a stored view -/

/-- A statement without GROUP BY and ORDER BY takes over those of a stored
view, every entry with its direction. A target keeps its entry exactly when the
first output column with its source column belongs to the entry. -/
theorem adopted_targets_of_storedView {catalog catalog' : Catalog}
    {create : CreateView} {source : Table}
    (hsource : catalog.table? create.select.source = some source)
    (hbase : source.view = none) (hadd : catalog.addView create = .ok catalog')
    {today : Day} {s r : Select} (hs : s.source = create.name)
    (hgroupBy : s.groupBy = []) (horderBy : s.orderBy = [])
    (hr : unfold catalog' today s = .ok r) :
    ∃ view, catalog'.table? create.name = some view ∧
      r.groupBy =
        distinctPositions (create.select.groupBy.filterMap
          (adoptPosition view r.items)) ∧
      r.orderBy = create.select.orderBy.filterMap
        (retarget (adoptPosition view r.items)) ∧
      ∀ p ∈ create.targets,
        create.KeepsTarget source view s r p ↔
          create.FirstShownBelongs source view s p := by
  obtain ⟨blocks, hdescribes, hfound, hmerge⟩ :=
    unfold_storedView hsource hbase hadd hs hr
  refine ⟨_, hfound, ?_, ?_, fun p _ => keepsTarget_iff hmerge p⟩
  · obtain ⟨shown, conditions, during, -, -, -, rfl⟩ :=
      merge_eq_ok_iff.mp hmerge
    rw [hgroupBy]
    rfl
  · obtain ⟨shown, conditions, during, -, -, -, rfl⟩ :=
      merge_eq_ok_iff.mp hmerge
    rw [horderBy]
    rfl

/-! ## A view that keeps its targets and a view that does not -/

/-- A report of costs. -/
def costReport : Table where
  name := "COSTS"
  aggregateColumn := "Id"
  columns :=
    [{ name := "Id", kind := "LONG" }, { name := "Cost", kind := "MONEY" }]

/-- A catalog with the report of costs, and perhaps views on it. -/
def costsAnd (views : List Table) : Catalog where
  version := "v1"
  tables := costReport :: views

/-- A view of the sum of costs for every identifier, greatest sum first. -/
def totalView : CreateView where
  replace := false
  name := "total"
  columns := []
  select := {
    items := [
      { column := { name := "Id" } },
      { column := { name := "Cost" }, function := some .sum }]
    source := "COSTS"
    groupBy := [⟨{ name := "Id" }, 1⟩]
    orderBy := [⟨⟨{ name := "Cost" }, 2⟩, true⟩] }

/-- The table of the view of sums. -/
def totalTable : Table :=
  totalView.table costReport [
    [{ name := "Id", kind := "LONG" }],
    [{ name := "Cost", kind := "MONEY", method := some "SUM" }]]

/-- The sums of the view, without the identifiers. -/
def totalSelect : Select where
  items := [{ column := { name := "Cost" } }]
  source := "total"

/-- The sums as a statement on the report. -/
def totalUnfolded : Select where
  items := [{ column := { name := "Cost" }, function := some .sum }]
  source := "COSTS"
  orderBy := [⟨⟨{ name := "Cost" }, 1⟩, true⟩]

theorem keepsTarget_totalView :
    (costsAnd []).addView totalView = .ok (costsAnd [totalTable]) ∧
      unfold (costsAnd [totalTable]) (Day.ofCount 0) totalSelect =
        .ok totalUnfolded ∧
      totalView.KeepsTarget costReport totalTable totalSelect totalUnfolded
        ⟨{ name := "Cost" }, 2⟩ := by
  have hadd : (costsAnd []).addView totalView =
      .ok (costsAnd [totalTable]) := by decide +kernel
  have hr : unfold (costsAnd [totalTable]) (Day.ofCount 0) totalSelect =
      .ok totalUnfolded := by
    decide +kernel
  have hfound : (costsAnd [totalTable]).table? "total" = some totalTable := by
    decide +kernel
  have hsource : (costsAnd []).table? "COSTS" = some costReport := by
    decide +kernel
  obtain ⟨view, hview, -, -, hiff⟩ :=
    adopted_targets_of_storedView hsource rfl hadd rfl rfl rfl hr
  obtain rfl := Option.some.inj (hfound.symm.trans hview)
  refine ⟨hadd, hr, (hiff _ (by decide +kernel)).mpr ?_⟩
  intro origin horigin
  have hfirst : (totalSelect.origins totalTable).find? (fun origin =>
      totalTable.originName origin == sourceName totalTable
        ⟨{ name := "Cost" }, 2⟩) = some (some 1) := by
    decide +kernel
  exact ⟨1, Option.some.inj (horigin.symm.trans hfirst), by decide +kernel⟩

/-- A view of the sum and the maximum of one column, greatest maximum first. -/
def spendView : CreateView where
  replace := false
  name := "spend"
  columns := []
  select := {
    items := [
      { column := { name := "Cost" }, function := some .sum },
      { column := { name := "Cost" }, function := some .max }]
    source := "COSTS"
    orderBy := [⟨⟨{ name := "Cost" }, 2⟩, true⟩] }

/-- The table of the view of the sum and the maximum. -/
def spendTable : Table :=
  spendView.table costReport [
    [{ name := "Cost", kind := "MONEY", method := some "SUM" }],
    [{ name := "Cost", kind := "MONEY", method := some "MAX" }]]

/-- Everything of the view as a statement on the report. -/
def spendUnfolded : Select where
  items := spendView.select.items
  source := "COSTS"
  orderBy := [⟨⟨{ name := "Cost" }, 1⟩, true⟩]

/-- The view that asks for the greatest maximum first is sorted by the sum. -/
theorem not_keepsTarget_spendView :
    parseStatement
        "CREATE VIEW spend AS SELECT SUM(Cost), MAX(Cost) FROM COSTS ORDER BY 2 DESC" =
          .ok (.createView spendView) ∧
      parseStatement "SELECT * FROM spend" =
        .ok (.select (.everything "spend" .ending)) ∧
      (costsAnd []).addView spendView = .ok (costsAnd [spendTable]) ∧
      unfold (costsAnd [spendTable]) (Day.ofCount 0)
        (.everything "spend" .ending) = .ok spendUnfolded ∧
      ¬ spendView.KeepsTarget costReport spendTable
        (.everything "spend" .ending) spendUnfolded
          ⟨{ name := "Cost" }, 2⟩ := by
  refine ⟨by
    decide +kernel, by decide +kernel, by decide +kernel, by decide +kernel, ?_⟩
  intro hkeeps
  have hadopted : adoptPosition spendTable spendUnfolded.items
      ⟨{ name := "Cost" }, 2⟩ = some ⟨{ name := "Cost" }, 1⟩ := by
    decide +kernel
  obtain ⟨k, hk, hentry⟩ := hkeeps.kept _ hadopted
  have horigin : (Select.origins (.everything "spend" .ending) spendTable)[0]? =
      some (some 0) := by
    decide +kernel
  have hzero : (spendView.entries costReport)[0]? = some 0 := by decide +kernel
  obtain rfl : 0 = k :=
    Option.some.inj (Option.some.inj (horigin.symm.trans hk))
  exact absurd (hzero.symm.trans hentry) (by decide)

end Plan

end ReportQuery
