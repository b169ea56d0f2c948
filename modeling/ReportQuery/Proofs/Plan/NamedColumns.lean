import ReportQuery.Proofs.Plan.Chain

/-!
# Naming the columns of a view

A star on a view and the names of all its columns are unfolded by two functions
that choose aliases differently: a star keeps the alias that the view gave to a
column, a name is kept as an alias only when the column of the source is called
something else. The statements are the same once an alias that repeats the name
of its column is left out.

No view looks at such an alias. So the statements stay the same through all
further views, whichever of them fails, fails with the same error as the other.
-/

namespace ReportQuery

/-! ## Aliases that repeat the name -/

/-- A column without an alias that repeats its name. -/
def ColumnRef.tidy (column : ColumnRef) : ColumnRef :=
  { column with aliasName := column.aliasName.filter fun name =>
    name != column.name }

def SelectItem.tidy (item : SelectItem) : SelectItem :=
  { item with column := item.column.tidy }

def ColumnPosition.tidy (p : ColumnPosition) : ColumnPosition :=
  { p with column := p.column.tidy }

def OrderEntry.tidy (entry : OrderEntry) : OrderEntry :=
  { entry with target := entry.target.tidy }

/-- A statement without aliases that repeat the names of their columns. -/
def Select.tidy (s : Select) : Select :=
  { s with
    items := s.items.map SelectItem.tidy
    groupBy := s.groupBy.map ColumnPosition.tidy
    orderBy := s.orderBy.map OrderEntry.tidy }

/-- Entries that name the columns of a table one by one. -/
def Table.namedItems (table : Table) : List SelectItem :=
  table.columns.map fun column => { column := { name := column.label } }

theorem ColumnRef.label_tidy (column : ColumnRef) :
    column.tidy.label = column.label :=
  Option.getD_filter_ne column.aliasName column.name

theorem ColumnRef.tidy_tidy (column : ColumnRef) :
    column.tidy.tidy = column.tidy := by
  simp [ColumnRef.tidy, Option.filter_filter]

theorem SelectItem.tidy_tidy (item : SelectItem) : item.tidy.tidy = item.tidy :=
  congrArg (fun column => { item with column }) item.column.tidy_tidy

theorem Select.tidy_tidy (s : Select) : s.tidy.tidy = s.tidy := by
  have hitems : SelectItem.tidy ∘ SelectItem.tidy = SelectItem.tidy :=
    funext SelectItem.tidy_tidy
  have hpositions : ColumnPosition.tidy ∘ ColumnPosition.tidy =
      ColumnPosition.tidy := by
    funext p
    exact congrArg (fun column => { p with column }) p.column.tidy_tidy
  have hentries : OrderEntry.tidy ∘ OrderEntry.tidy = OrderEntry.tidy := by
    funext entry
    exact congrArg (fun target => { entry with target })
      (congrFun hpositions entry.target)
  simp only [Select.tidy, List.map_map, hitems, hpositions, hentries]

namespace Plan

/-! ## Images -/

/-- An entry is mapped by its name, its label and its marks, none of which an
alias that repeats the name changes. -/
theorem map_tidy_mapItem (table : Table) (item : SelectItem) :
    (mapItem table item.tidy).map SelectItem.tidy =
      (mapItem table item).map SelectItem.tidy := by
  have hlabel : item.tidy.label = item.label := item.column.label_tidy
  have hname : item.tidy.name = item.name := rfl
  unfold mapItem
  rw [hname]
  by_cases hstar : item.name == starName
  · rw [if_pos hstar, if_pos hstar]
    exact congrArg Except.ok item.tidy_tidy
  · rw [if_neg hstar, if_neg hstar]
    cases table.column? item.name with
    | none => rfl
    | some column =>
        simp only [mapColumn, hlabel]
        rfl

theorem map_tidy_images (table : Table) (item : SelectItem) :
    (images table item.tidy).map (List.map SelectItem.tidy) =
      (images table item).map (List.map SelectItem.tidy) := by
  have hstar : item.tidy.isStar = item.isStar := rfl
  have hmapped := map_tidy_mapItem table item
  unfold images
  rw [hstar]
  by_cases hitem : item.isStar
  · rw [if_pos hitem, if_pos hitem]
  · rw [if_neg hitem, if_neg hitem]
    cases htidy : mapItem table item.tidy <;>
      cases hplain : mapItem table item <;> simp_all

/-! ## Positions -/

theorem map_tidy_positionAt? (items : List SelectItem) (i : Nat) :
    (positionAt? items i).map ColumnPosition.tidy =
      positionAt? (items.map SelectItem.tidy) i := by
  simp only [positionAt?, List.getElem?_map, Option.map_map]
  rfl

theorem map_tidy_remapPosition (blocks : List (List SelectItem))
    (p : ColumnPosition) :
    (remapPosition blocks p).map ColumnPosition.tidy =
      remapPosition (blocks.map (List.map SelectItem.tidy)) p.tidy := by
  have hposition : p.tidy.position = p.position := rfl
  unfold remapPosition
  rw [hposition, List.length_map, ← List.map_take, ← List.map_flatten,
    ← List.map_flatten, List.length_map, ← map_tidy_positionAt?]
  split
  · rfl
  · rfl

theorem map_tidy_adoptPosition (table : Table) (items : List SelectItem)
    (p : ColumnPosition) :
    (adoptPosition table items p).map ColumnPosition.tidy =
      adoptPosition table (items.map SelectItem.tidy) p := by
  unfold adoptPosition
  rw [List.findIdx?_map, Option.map_bind]
  exact congrArg _ (funext fun i => map_tidy_positionAt? items i)

theorem map_tidy_distinctPositions (positions : List ColumnPosition) :
    (distinctPositions positions).map ColumnPosition.tidy =
      distinctPositions (positions.map ColumnPosition.tidy) := by
  induction positions using List.reverseRecOn with
  | nil => rfl
  | append_singleton positions p ih =>
      rw [distinctPositions_append_singleton, List.map_append,
        List.map_singleton, distinctPositions_append_singleton, ← ih]
      have hseen : ((distinctPositions positions).map ColumnPosition.tidy).any
          (fun q => q.position == p.tidy.position) =
            (distinctPositions positions).any fun q =>
              q.position == p.position := by
        rw [List.any_map]
        rfl
      rw [hseen]
      split
      · rfl
      · rw [List.map_append, List.map_singleton]

theorem map_tidy_mergeGroupBy (own shown : List ColumnPosition) (table : Table)
    (blocks : List (List SelectItem)) :
    (mergeGroupBy own shown table blocks).map ColumnPosition.tidy =
      mergeGroupBy (own.map ColumnPosition.tidy) shown table
        (blocks.map (List.map SelectItem.tidy)) := by
  have hkept : (own.filterMap (remapPosition blocks)).map ColumnPosition.tidy =
      (own.map ColumnPosition.tidy).filterMap
        (remapPosition (blocks.map (List.map SelectItem.tidy))) := by
    rw [List.map_filterMap, List.filterMap_map]
    exact List.filterMap_congr fun p _ => map_tidy_remapPosition blocks p
  have hadopted : (shown.filterMap (adoptPosition table blocks.flatten)).map
      ColumnPosition.tidy =
      shown.filterMap
        (adoptPosition table
          (blocks.map (List.map SelectItem.tidy)).flatten) := by
    rw [List.map_filterMap, ← List.map_flatten]
    exact List.filterMap_congr fun p _ =>
      map_tidy_adoptPosition table blocks.flatten p
  simp only [mergeGroupBy]
  rw [← hkept, ← hadopted, List.isEmpty_map, ← map_tidy_distinctPositions]
  split
  · rfl
  · rfl

theorem map_tidy_retarget {move : ColumnPosition → Option ColumnPosition}
    {entry : OrderEntry} {moved : Option ColumnPosition}
    (h : (move entry.target).map ColumnPosition.tidy = moved) :
    (retarget move entry).map OrderEntry.tidy =
      moved.map fun target => { entry with target } := by
  rw [← h, retarget, Option.map_map, Option.map_map]
  rfl

theorem map_tidy_mergeOrderBy (own shown : List OrderEntry) (table : Table)
    (blocks : List (List SelectItem)) :
    (mergeOrderBy own shown table blocks).map OrderEntry.tidy =
      mergeOrderBy (own.map OrderEntry.tidy) shown table
        (blocks.map (List.map SelectItem.tidy)) := by
  have hkept : (own.filterMap (retarget (remapPosition blocks))).map
      OrderEntry.tidy = (own.map OrderEntry.tidy).filterMap
        (retarget (remapPosition (blocks.map (List.map SelectItem.tidy)))) := by
    rw [List.map_filterMap, List.filterMap_map]
    apply List.filterMap_congr
    intro entry _
    exact map_tidy_retarget (map_tidy_remapPosition blocks entry.target)
  have hadopted :
      (shown.filterMap (retarget (adoptPosition table blocks.flatten))).map
      OrderEntry.tidy = shown.filterMap
        (retarget
          (adoptPosition table
            (blocks.map (List.map SelectItem.tidy)).flatten)) := by
    rw [List.map_filterMap, ← List.map_flatten]
    apply List.filterMap_congr
    intro entry _
    exact map_tidy_retarget
      (map_tidy_adoptPosition table blocks.flatten entry.target)
  simp only [mergeOrderBy]
  rw [← hkept, ← hadopted, List.isEmpty_map]
  split
  · rfl
  · rfl

/-! ## Merged statements -/

/-- What a merged statement says of the images of its entries, up to aliases. -/
theorem map_tidy_merge {today : Day} {s t : Select} {table : Table}
    {view : View} {γ : Type} (look : List (List SelectItem) → γ)
    (himages : (s.items.mapM (images table)).map look =
      (t.items.mapM (images table)).map look)
    (hconditions : s.conditions = t.conditions)
    (hduring : s.during = t.during) (hlimit : s.limit = t.limit)
    (hterminator : s.terminator = t.terminator)
    (hlook : ∀ blocks blocks', look blocks = look blocks' →
      blocks.flatten.map SelectItem.tidy = blocks'.flatten.map SelectItem.tidy ∧
      (mergeGroupBy s.groupBy view.groupBy table blocks).map
        ColumnPosition.tidy = (mergeGroupBy t.groupBy view.groupBy
        table blocks').map ColumnPosition.tidy ∧
      (mergeOrderBy s.orderBy view.orderBy table blocks).map OrderEntry.tidy =
      (mergeOrderBy t.orderBy view.orderBy table blocks').map OrderEntry.tidy) :
    (merge today s table view).map Select.tidy =
      (merge today t table view).map Select.tidy := by
  unfold merge
  rw [hconditions, hduring]
  cases hs : s.items.mapM (images table) with
  | error error =>
      rw [hs] at himages
      rw [Except.map_eq_error_iff.mp himages.symm]
      rfl
  | ok blocks =>
      rw [hs] at himages
      obtain ⟨blocks', hblocks', hsame⟩ := Except.map_eq_ok_iff.mp himages.symm
      obtain ⟨hitems, hgroupBy, horderBy⟩ := hlook blocks blocks' hsame.symm
      rw [hblocks']
      cases mergeConditions t.conditions view.conditions table with
      | error error => rfl
      | ok conditions =>
          cases mergeDuring today t.during view.during with
          | error error => rfl
          | ok during =>
              change Except.ok _ = Except.ok _
              simp only [Select.tidy, hitems, hgroupBy, horderBy, hlimit,
                hterminator]

/-- Merging does not look at aliases that repeat the names of their columns. -/
theorem map_tidy_merge_tidy (today : Day) (s : Select) (table : Table)
    (view : View) :
    (merge today s.tidy table view).map Select.tidy =
      (merge today s table view).map Select.tidy := by
  apply map_tidy_merge (List.map (List.map SelectItem.tidy))
  · change ((s.items.map SelectItem.tidy).mapM (images table)).map _ = _
    rw [List.mapM_map, ← Except.mapM_map, ← Except.mapM_map]
    exact Except.mapM_congr fun item _ => map_tidy_images table item
  · rfl
  · rfl
  · rfl
  · rfl
  · intro blocks blocks' hsame
    have hgroupBy : s.tidy.groupBy.map ColumnPosition.tidy =
        s.groupBy.map ColumnPosition.tidy :=
      congrArg Select.groupBy s.tidy_tidy
    have horderBy : s.tidy.orderBy.map OrderEntry.tidy =
        s.orderBy.map OrderEntry.tidy :=
      congrArg Select.orderBy s.tidy_tidy
    refine ⟨?_, ?_, ?_⟩
    · rw [List.map_flatten, List.map_flatten, hsame]
    · rw [map_tidy_mergeGroupBy, map_tidy_mergeGroupBy, hsame, hgroupBy]
    · rw [map_tidy_mergeOrderBy, map_tidy_mergeOrderBy, hsame, horderBy]

/-- Statements that differ in aliases that repeat the names of their columns
unfold alike. -/
theorem map_tidy_unfoldWithin (catalog : Catalog) (today : Day) (depth : Nat)
    (s : Select) :
    (unfoldWithin catalog today depth s.tidy).map Select.tidy =
      (unfoldWithin catalog today depth s).map Select.tidy := by
  induction depth generalizing s with
  | zero => rfl
  | succ depth ih =>
      have hsource : s.tidy.source = s.source := rfl
      simp only [unfoldWithin, hsource]
      cases catalog.table? s.source with
      | none => rfl
      | some table =>
          cases hview : table.view with
          | none =>
              simp only [hview]
              exact congrArg Except.ok s.tidy_tidy
          | some view =>
              simp only [hview]
              refine Except.map_bind_congr ?_
                (map_tidy_merge_tidy today s table view)
              intro merged merged' hsame
              rw [← ih merged, hsame, ih merged']

theorem map_tidy_unfoldWithin_of_tidy_eq {catalog : Catalog} {today : Day}
    {depth : Nat} {s t : Select} (h : s.tidy = t.tidy) :
    (unfoldWithin catalog today depth s).map Select.tidy =
      (unfoldWithin catalog today depth t).map Select.tidy := by
  rw [← map_tidy_unfoldWithin, h, map_tidy_unfoldWithin]

/-! ## A star and the names -/

/-- A column of a view is shown alike by a star and by its name. -/
theorem map_tidy_mapItem_label {table : Table}
    (hlabels : (table.columns.map TableColumn.label).Nodup)
    (hstar : ∀ column ∈ table.columns, column.label ≠ starName)
    {column : TableColumn} (hcolumn : column ∈ table.columns) :
    (mapItem table { column := { name := column.label } }).map SelectItem.tidy =
      (expandColumn column).map SelectItem.tidy := by
  have hmapped : mapItem table { column := { name := column.label } } =
      mapColumn { column := { name := column.label } } column := by
    simp [mapItem, SelectItem.name, hstar column hcolumn,
      Table.column?_label hlabels hcolumn]
  have halias :
      (((some column.label).filter fun name => name != column.name).filter
      fun name => name != column.name) =
        column.aliasName.filter fun name => name != column.name := by
    unfold TableColumn.label
    cases column.aliasName <;> simp [Option.filter_filter]
  rw [hmapped, mapColumn, expandColumn, Except.map_map, Except.map_map]
  apply congrArg fun shown => Except.map shown (viewMethod column)
  funext function
  simp only [SelectItem.tidy, ColumnRef.tidy, Bool.false_or]
  rw [← halias]
  rfl

/-- A star and the names of the columns have the same images. -/
theorem map_tidy_images_namedItems {table : Table}
    (hlabels : (table.columns.map TableColumn.label).Nodup)
    (hstar : ∀ column ∈ table.columns, column.label ≠ starName) :
    ([{ column := { name := starName } }].mapM (images table)).map
        (fun blocks => blocks.flatten.map SelectItem.tidy) =
      (table.namedItems.mapM (images table)).map
        fun blocks => blocks.flatten.map SelectItem.tidy := by
  have hnamed : ∀ column ∈ table.columns,
      images table { column := { name := column.label } } =
        (mapItem table { column := { name := column.label } }).map fun image =>
          [image] := by
    intro column hcolumn
    apply images_of_not_star
    simp [SelectItem.isStar, SelectItem.name, hstar column hcolumn]
  have hexpanded :
      ([{ column := { name := starName } }].mapM (images table)).map
      (fun blocks => blocks.flatten.map SelectItem.tidy) =
        (table.columns.mapM expandColumn).map (List.map SelectItem.tidy) := by
    change ((table.columns.mapM expandColumn).bind fun block => .ok [block]).map
      _ = _
    cases table.columns.mapM expandColumn with
    | error error => rfl
    | ok block => simp
  rw [hexpanded, Table.namedItems, List.mapM_map]
  change _ = (table.columns.mapM fun column =>
    images table { column := { name := column.label } }).map _
  rw [Except.mapM_congr hnamed, Except.mapM_map, Except.map_map]
  simp only [flatten_singletons]
  change _ = (table.columns.mapM fun column =>
    mapItem table { column := { name := column.label } }).map
      (List.map SelectItem.tidy)
  rw [← Except.mapM_map, ← Except.mapM_map]
  exact Except.mapM_congr fun column hcolumn =>
    (map_tidy_mapItem_label hlabels hstar hcolumn).symm

/-- Without positions of the statement it does not matter how the images form
blocks. -/
theorem map_tidy_mergeGroupBy_nil {shown : List ColumnPosition} {table : Table}
    {blocks blocks' : List (List SelectItem)}
    (h : blocks.flatten.map SelectItem.tidy =
      blocks'.flatten.map SelectItem.tidy) :
    (mergeGroupBy [] shown table blocks).map ColumnPosition.tidy =
      (mergeGroupBy [] shown table blocks').map ColumnPosition.tidy := by
  have hflat : ∀ parts : List (List SelectItem),
      mergeGroupBy [] shown table parts =
      mergeGroupBy [] shown table [parts.flatten] := by
    intro parts
    simp [mergeGroupBy]
  rw [hflat blocks, hflat blocks', map_tidy_mergeGroupBy, map_tidy_mergeGroupBy,
    List.map_singleton, List.map_singleton, h]

theorem map_tidy_mergeOrderBy_nil {shown : List OrderEntry} {table : Table}
    {blocks blocks' : List (List SelectItem)}
    (h : blocks.flatten.map SelectItem.tidy =
      blocks'.flatten.map SelectItem.tidy) :
    (mergeOrderBy [] shown table blocks).map OrderEntry.tidy =
      (mergeOrderBy [] shown table blocks').map OrderEntry.tidy := by
  have hflat : ∀ parts : List (List SelectItem),
      mergeOrderBy [] shown table parts =
      mergeOrderBy [] shown table [parts.flatten] := by
    intro parts
    simp [mergeOrderBy]
  rw [hflat blocks, hflat blocks', map_tidy_mergeOrderBy, map_tidy_mergeOrderBy,
    List.map_singleton, List.map_singleton, h]

section Named

variable {catalog : Catalog} {name : String} {table : Table} {view : View}

/-- A star on a view and the names of its columns unfold alike, under the same
clauses. -/
theorem map_tidy_unfold_namedItems (htable : catalog.table? name = some table)
    (hview : table.view = some view)
    (hlabels : (table.columns.map TableColumn.label).Nodup)
    (hstar : ∀ column ∈ table.columns, column.label ≠ starName) (today : Day)
    (conditions : List Condition) (during : Option During)
    (limit : Option Limit) (terminator : Terminator) :
    (unfold catalog today {
        items := [{ column := { name := starName } }]
        source := name, conditions, during, limit, terminator }).map
          Select.tidy =
      (unfold catalog today {
        items := table.namedItems
        source := name, conditions, during, limit, terminator }).map
          Select.tidy := by
  have hstep : ∀ s : Select, s.source = name → unfold catalog today s =
      (merge today s table view).bind (unfoldWithin catalog today 15) := by
    intro s hs
    exact unfoldWithin_succ_of_view today 15 (hs.symm ▸ htable) hview
  rw [hstep _ rfl, hstep _ rfl]
  refine Except.map_bind_congr
    (fun merged merged' => map_tidy_unfoldWithin_of_tidy_eq) ?_
  refine map_tidy_merge _ (map_tidy_images_namedItems hlabels hstar)
    rfl rfl rfl rfl ?_
  intro blocks blocks' hsame
  exact ⟨hsame, map_tidy_mergeGroupBy_nil hsame,
    map_tidy_mergeOrderBy_nil hsame⟩

/-- A star on a view and the names of its columns are the same statement: under
the same clauses one unfolds when the other does, to the same statement up to
aliases that repeat the names of their columns. -/
theorem unfold_namedItems (htable : catalog.table? name = some table)
    (hview : table.view = some view)
    (hlabels : (table.columns.map TableColumn.label).Nodup)
    (hstar : ∀ column ∈ table.columns, column.label ≠ starName) (today : Day)
    (conditions : List Condition) (during : Option During)
    (limit : Option Limit) (terminator : Terminator) :
    let everything : Select := {
      items := [{ column := { name := starName } }]
      source := name, conditions, during, limit, terminator }
    let named : Select := { everything with items := table.namedItems }
    ((∃ r, unfold catalog today everything = .ok r) ↔
        ∃ r, unfold catalog today named = .ok r) ∧
      ∀ r r', unfold catalog today everything = .ok r →
        unfold catalog today named = .ok r' → r.tidy = r'.tidy := by
  intro everything named
  have hsame : (unfold catalog today everything).map Select.tidy =
      (unfold catalog today named).map Select.tidy :=
    map_tidy_unfold_namedItems htable hview hlabels hstar today conditions
      during limit terminator
  refine ⟨⟨?_, ?_⟩, ?_⟩
  · rintro ⟨r, hr⟩
    rw [hr] at hsame
    obtain ⟨r', hr', -⟩ := Except.map_eq_ok_iff.mp hsame.symm
    exact ⟨r', hr'⟩
  · rintro ⟨r', hr'⟩
    rw [hr'] at hsame
    obtain ⟨r, hr, -⟩ := Except.map_eq_ok_iff.mp hsame
    exact ⟨r, hr⟩
  · intro r r' hr hr'
    rw [hr, hr'] at hsame
    exact Except.ok.inj hsame

end Named

/-- A report of visits and a view whose first column has an alias that repeats
its name. -/
def pageCatalog : Catalog where
  version := "v1"
  tables := [
    { name := "VISITS"
      aggregateColumn := "Page"
      columns := [{ name := "Page" }, { name := "Hits", kind := "LONG" }] },
    { name := "PAGES"
      aggregateColumn := "Page"
      columns := [
        { name := "Page", aliasName := some "Page" },
        { name := "Hits", aliasName := some "total", kind := "LONG",
          method := some "SUM" }]
      view := some {
        source := "VISITS"
        primaryKey := "Page"
        groupBy := [⟨{ name := "Page" }, 1⟩]
        limit := some ⟨0, 10⟩ } }]

def pageSelect (items : List SelectItem) : Select where
  items := items
  source := "PAGES"
  conditions := [{
    column := "Page"
    operator := .startsWithIgnoreCase
    values := ["/docs"]
    literal := false }]
  limit := some ⟨2, 5⟩

def pageUnfolded (aliasName : Option String) : Select where
  items := [
    { column := { name := "Page", aliasName } },
    { column := { name := "Hits", aliasName := some "total" },
      function := some .sum }]
  source := "VISITS"
  conditions := (pageSelect []).conditions
  groupBy := [⟨{ name := "Page", aliasName }, 1⟩]
  limit := some ⟨2, 5⟩

/-- The star keeps the alias of the view and the name does not, and that is all
the difference. -/
theorem unfold_namedItems_pageCatalog :
    unfold pageCatalog (Day.ofCount 0)
      (pageSelect [{ column := { name := starName } }]) =
        .ok (pageUnfolded (some "Page")) ∧
      unfold pageCatalog (Day.ofCount 0)
          (pageSelect [{ column := { name := "Page" } },
            { column := { name := "total" } }]) =
        .ok (pageUnfolded none) ∧
      (pageUnfolded (some "Page")).tidy = (pageUnfolded none).tidy := by
  have heverything : unfold pageCatalog (Day.ofCount 0)
      (pageSelect [{ column := { name := starName } }]) =
      .ok (pageUnfolded (some "Page")) := by
    decide +kernel
  have hnamed : unfold pageCatalog (Day.ofCount 0)
      (pageSelect [{ column := { name := "Page" } },
        { column := { name := "total" } }]) = .ok (pageUnfolded none) := by
    decide +kernel
  have htable : pageCatalog.table? "PAGES" = some pageCatalog.tables[1] := by
    decide +kernel
  obtain ⟨-, hsame⟩ := unfold_namedItems htable rfl (by decide)
    (by decide) (Day.ofCount 0)
    (pageSelect []).conditions none (pageSelect []).limit .ending
  exact ⟨heverything, hnamed, hsame _ _ heverything hnamed⟩

end Plan

end ReportQuery
