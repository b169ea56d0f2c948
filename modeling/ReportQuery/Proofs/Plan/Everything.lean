import ReportQuery.Proofs.Plan.Chain
import ReportQuery.Proofs.Statement.WellFormed

/-!
# Selecting everything from a stored view

A statement that selects everything from a stored view unfolds to what the
SELECT of the view unfolds to. The two select lists differ in aliases only: the
names given to the columns of the view take the place of those in its SELECT.
-/

namespace ReportQuery

/-- The statement that selects everything from a table. -/
def Select.everything (source : String) (terminator : Terminator) : Select where
  items := [{ column := { name := starName } }]
  source := source
  terminator := terminator

theorem Select.WellFormed.aligned {s : Select} (h : s.WellFormed)
    (hstar : ∀ item ∈ s.items, item.isStar = false) : s.Aligned where
  star := hstar
  groupBy := fun p hp => (h.groupBy p hp).bounds
  orderBy := fun entry hentry => (h.orderBy entry hentry).bounds

namespace Plan

/-! ## Columns of the view as entries -/

/-- A star shows the column that an entry became as the entry, under the name
of the column. -/
theorem expandColumn_of_becomesColumn {item : SelectItem}
    {given : Option String} {column : TableColumn} (hstar : item.isStar = false)
    (h : item.BecomesColumn given column) :
    ∃ image, expandColumn column = .ok image ∧ image.shape = item.shape ∧
      image.label = given.getD item.label := by
  have hmethod : viewMethod column = .ok item.function := by
    rw [viewMethod, h.method, h.name]
    cases hfunction : item.function with
    | some function => simp [AggregateFunction.ofName?_name]
    | none =>
        have hname : (item.name == starName) = false := by
          simpa [SelectItem.isStar, hfunction] using hstar
        simp [hname]
  refine ⟨_, Except.map_eq_ok_iff.mpr ⟨item.function, hmethod, rfl⟩,
    ?_, h.label⟩
  have hname : column.name = item.column.name := h.name
  simp [SelectItem.shape, SelectItem.name, hname, h.distinct]

theorem mapM_expandColumn_of_becomesColumn {names : List String}
    {entries : List (SelectItem × Nat)} {columns : List TableColumn}
    (hstar : ∀ entry ∈ entries, entry.1.isStar = false)
    (h : List.Forall₂
      (fun entry column => entry.1.BecomesColumn names[entry.2]? column) entries
      columns) :
    ∃ shown, columns.mapM expandColumn = .ok shown ∧
      shown.map SelectItem.shape = entries.map (fun entry => entry.1.shape) ∧
      shown.map SelectItem.label =
        entries.map (fun entry => names[entry.2]?.getD entry.1.label) := by
  induction h with
  | nil => exact ⟨[], rfl, rfl, rfl⟩
  | @cons entry column _ _ hcolumn _ ih =>
      obtain ⟨image, himage, hshape, hlabel⟩ :=
        expandColumn_of_becomesColumn (hstar entry (by simp)) hcolumn
      obtain ⟨shown, hshown, hshapes, hlabels⟩ := ih fun other hother =>
        hstar other (by simp [hother])
      rw [Except.mapM_eq_ok_iff] at hshown
      exact ⟨image :: shown,
        Except.mapM_eq_ok_iff.mpr (.cons himage hshown), by
        simp [*], by simp [*]⟩

theorem names_of_expandColumns {columns : List TableColumn}
    {shown : List SelectItem} (h : columns.mapM expandColumn = .ok shown) :
    shown.map SelectItem.name = columns.map TableColumn.name := by
  rw [Except.mapM_eq_ok_iff] at h
  induction h with
  | nil => rfl
  | cons himage _ ih =>
      obtain ⟨function, -, rfl⟩ := Except.map_eq_ok_iff.mp himage
      rw [List.map_cons, List.map_cons, ih]
      rfl

/-- Names for all entries, or for none, in place of those the entries are shown
under. -/
theorem labels_given {names : List String} {items : List SelectItem}
    (h : names ≠ [] → names.length = items.length) :
    (items.zipIdx.map fun entry => names[entry.2]?.getD entry.1.label) =
      if names = [] then items.map SelectItem.label else names := by
  by_cases hnames : names = []
  · subst hnames
    rw [if_pos rfl]
    apply List.ext_getElem
    · simp
    · intro i hi hi'
      simp
  · rw [if_neg hnames]
    apply List.ext_getElem
    · simp [h hnames]
    · intro i hi hi'
      simp [hi']

/-! ## The merged statement -/

theorem addedConditions_nil (view : String) (shown : List Condition) :
    addedConditions view [] shown = .ok shown := by
  induction shown with
  | nil => rfl
  | cons c rest ih => simp [addedConditions, ih]

theorem mergeConditions_nil (shown : List Condition) (table : Table) :
    mergeConditions [] shown table = .ok shown := by
  change (addedConditions table.name [] shown).map (fun added => [] ++ added) =
    _
  rw [addedConditions_nil]
  rfl

theorem mergeLimit_none (shown : Option Limit) :
    mergeLimit none shown = shown := by
  cases shown <;> rfl

/-- Everything of a view is all its columns under all its clauses. -/
theorem merge_everything {table : Table} {view : View} {shown : List SelectItem}
    (h : table.columns.mapM expandColumn = .ok shown) (today : Day)
    (source : String) (terminator : Terminator) :
    merge today (.everything source terminator) table view = .ok {
      items := shown
      source := view.source
      conditions := view.conditions
      during := view.during
      groupBy :=
        distinctPositions (view.groupBy.filterMap (adoptPosition table shown))
      orderBy := view.orderBy.filterMap (retarget (adoptPosition table shown))
      limit := view.limit
      terminator := terminator } := by
  refine merge_eq_ok_iff.mpr ⟨[shown], view.conditions, view.during, ?_,
    mergeConditions_nil view.conditions table,
    mergeDuring_none today view.during, ?_⟩
  · exact .cons h .nil
  · have hflat : [shown].flatten = shown := by simp
    rw [hflat]
    simp only [Select.everything, mergeLimit_none, mergeGroupBy, mergeOrderBy,
      List.filterMap_nil, List.isEmpty_nil, if_true, hflat]

/-- The positions of a view whose columns have different names are adopted as
they are. -/
theorem map_position_adoptPosition_of_nodup {table : Table}
    {shown : List SelectItem}
    (hnames : shown.map SelectItem.name = table.columns.map TableColumn.name)
    (hnodup : (shown.map SelectItem.name).Nodup) {p : ColumnPosition}
    (hp : p.InRange shown.length) :
    (adoptPosition table shown p).map ColumnPosition.position =
      some p.position := by
  obtain ⟨hone, hle⟩ := hp
  have hlength : table.columns.length = shown.length := by
    simpa using (congrArg List.length hnames).symm
  have hlt : p.position - 1 < (shown.map SelectItem.name).length := by
    rw [List.length_map]
    omega
  have hsource : sourceName table p =
      (shown.map SelectItem.name)[p.position - 1] := by
    have hcolumn : p.InRange table.columns.length := ⟨hone, hlength ▸ hle⟩
    obtain ⟨_, hname⟩ := sourceName_of_inRange hcolumn
    simp only [hnames, hname, List.getElem_map]
  rw [map_position_adoptPosition, hsource,
    List.findIdx?_getElem_of_nodup hnodup]
  exact congrArg some (Nat.sub_add_cancel hone)

/-- Everything of a stored view is a statement like the view's SELECT, on the
same source. -/
theorem merge_everything_alike {create : CreateView} {source : Table}
    {blocks : List (List TableColumn)}
    (hsource : source.name = create.select.source)
    (hdescribes : create.Describes source blocks)
    (haligned : create.select.Aligned)
    (hnodup : (create.select.items.map SelectItem.name).Nodup) (today : Day)
    (terminator : Terminator) :
    ∃ merged,
      merge today (.everything create.name terminator)
        (create.table source blocks)
          (create.clauses source) = .ok merged ∧
        create.select.Alike merged ∧
        merged.items.map SelectItem.label =
          if create.columns = [] then create.select.items.map SelectItem.label
          else create.columns := by
  have hstar : ∀ entry ∈ create.select.items.zipIdx, entry.1.isStar = false :=
    fun entry hentry => haligned.star entry.1
      (List.fst_mem_of_mem_zipIdx hentry)
  have hcolumns := hdescribes.columns haligned.star
  obtain ⟨shown, hshown, hshapes, hlabels⟩ :=
    mapM_expandColumn_of_becomesColumn hstar hcolumns
  have hshapes : create.select.items.map SelectItem.shape =
      shown.map SelectItem.shape := by
    have hmap : (fun entry : SelectItem × Nat => entry.1.shape) =
        SelectItem.shape ∘ Prod.fst := rfl
    rw [hshapes, hmap, ← List.map_map, List.zipIdx_map_fst]
  rw [labels_given hdescribes.length] at hlabels
  have hnames := SelectItem.names_eq_of_shapes_eq hshapes
  have hcolumnNames : shown.map SelectItem.name =
      (create.table source blocks).columns.map TableColumn.name :=
    names_of_expandColumns hshown
  have hlength : create.select.items.length = shown.length := by
    simpa using congrArg List.length hnames
  rw [hnames] at hnodup
  have hstay : ∀ p, p.InRange create.select.items.length →
      (adoptPosition (create.table source blocks) shown p).map
        ColumnPosition.position = some p.position := fun p hp =>
    map_position_adoptPosition_of_nodup hcolumnNames hnodup (hlength ▸ hp)
  refine ⟨_, merge_everything hshown today create.name terminator, ?_, hlabels⟩
  have hgroupBy : (create.clauses source).groupBy = create.select.groupBy := rfl
  have horderBy : (create.clauses source).orderBy = create.select.orderBy := rfl
  refine ⟨hshapes, hsource.symm, rfl, rfl, ?_, ?_, rfl⟩
  · rw [hgroupBy, positions_distinctPositions, List.eraseDups_eraseDups,
      List.map_filterMap_of_eq_some fun p hp => hstay p (haligned.groupBy p hp)]
  · have hplaces : ∀ entry ∈ create.select.orderBy,
        (retarget (adoptPosition (create.table source blocks) shown) entry).map
          OrderEntry.place = some entry.place := by
      intro entry hentry
      rw [map_place_retarget,
        hstay entry.target (haligned.orderBy entry hentry)]
      rfl
    rw [horderBy, List.map_filterMap_of_eq_some hplaces]

/-- A stored view is transparent: everything of it unfolds when its SELECT
does, and then to a statement like the one that its SELECT unfolds to. -/
theorem unfold_everything_storedView {catalog catalog' : Catalog}
    {create : CreateView} (hfresh : catalog.table? create.name = none)
    (hparsed : create.select.Parsed)
    (hstar : ∀ item ∈ create.select.items, item.isStar = false)
    (hnodup : (create.select.items.map SelectItem.name).Nodup)
    (hbelow : catalog.ViewsBelow 14 create.select.source)
    (hadd : catalog.addView create = .ok catalog') (today : Day)
    (terminator : Terminator) :
    ((∃ r', unfold catalog' today (.everything create.name terminator) =
        .ok r') ↔ ∃ r, unfold catalog today create.select = .ok r) ∧
      ∀ r r', unfold catalog today create.select = .ok r →
        unfold catalog' today (.everything create.name terminator) = .ok r' →
          r.Alike r' ∧
            r.items.map SelectItem.label =
              create.select.items.map SelectItem.label ∧
            r'.items.map SelectItem.label =
              if create.columns = [] then
                create.select.items.map SelectItem.label
              else create.columns := by
  obtain ⟨-, source, blocks, hsource, hdescribes, rfl⟩ :=
    Catalog.addView_eq_ok_iff.mp hadd
  have haligned := hparsed.wellFormed.aligned hstar
  have hname := Catalog.name_of_table? hsource
  obtain ⟨merged, hmerge, halike, hlabels⟩ :=
    merge_everything_alike hname hdescribes haligned hnodup today terminator
  have hmerged := aligned_of_merge hmerge
  have hold : unfold catalog today create.select =
      unfoldWithin catalog today 15 create.select :=
    unfoldWithin_eq_of_viewsBelow hbelow today (by decide) (by decide)
  have hview : (create.table source blocks).view =
      some (create.clauses source) := rfl
  have hnew : ∀ r', unfold (catalog.storing (create.table source blocks)) today
        (.everything create.name terminator) = .ok r' ↔
      unfoldWithin catalog today 15 merged = .ok r' := by
    intro r'
    exact unfoldWithin_storing_of_merge hfresh hview rfl hmerge
  rw [hold]
  constructor
  · constructor
    · rintro ⟨r', hr'⟩
      obtain ⟨r, hr, -⟩ := unfoldWithin_alike hmerged haligned halike.symm
        ((hnew r').mp hr')
      exact ⟨r, hr⟩
    · rintro ⟨r, hr⟩
      obtain ⟨r', hr', -⟩ := unfoldWithin_alike haligned hmerged halike hr
      exact ⟨r', (hnew r').mpr hr'⟩
  · intro r r' hr hr'
    obtain ⟨other, hother, hrel⟩ :=
      unfoldWithin_alike haligned hmerged halike hr
    rw [hnew] at hr'
    obtain rfl := Except.ok.inj (hother.symm.trans hr')
    refine ⟨hrel, labels_of_unfoldWithin haligned hr, ?_⟩
    rw [labels_of_unfoldWithin hmerged hother, hlabels]

/-- A catalog with a report of costs and a view that sums them for every
shop. -/
def costCatalog : Catalog where
  version := "v1"
  tables := [
    { name := "COSTS"
      aggregateColumn := "Shop"
      columns := [{ name := "Shop" }, { name := "Day" },
        { name := "Cost", kind := "MONEY" }] },
    { name := "SPENT"
      aggregateColumn := "Shop"
      columns := [
        { name := "Shop" },
        { name := "Cost", aliasName := some "total", kind := "MONEY",
          method := some "SUM" }]
      view := some {
        source := "COSTS"
        primaryKey := "Shop"
        groupBy := [⟨{ name := "Shop" }, 1⟩] } }]

/-- A view with given names on the view of sums. -/
def topView : CreateView where
  replace := false
  name := "TOP"
  columns := ["amount", "place"]
  select := {
    items :=
      [{ column := { name := "total" } }, { column := { name := "Shop" } }]
    source := "SPENT"
    orderBy := [⟨⟨{ name := "total" }, 1⟩, true⟩]
    limit := some ⟨0, 3⟩ }

theorem parsed_topView : topView.select.Parsed := by
  have hparse : parseStatement
      ("CREATE VIEW TOP (amount, place) AS SELECT total, Shop FROM SPENT " ++
        "ORDER BY 1 DESC LIMIT 3") =
        .ok (.createView topView) := by
    decide +kernel
  exact Or.inr ⟨topView, rfl, parsed_of_parseStatement hparse⟩

theorem viewsBelow_costCatalog : costCatalog.ViewsBelow 14 "SPENT" := by
  intro table view htable hview
  have hspent : costCatalog.table? "SPENT" = some costCatalog.tables[1] := by
    decide +kernel
  obtain rfl := Option.some.inj (hspent.symm.trans htable)
  obtain rfl := Option.some.inj hview
  intro table view htable hview
  have hcosts : costCatalog.table? "COSTS" = some costCatalog.tables[0] := by
    decide +kernel
  have hreport : costCatalog.tables[0].view = none := by decide +kernel
  obtain rfl := Option.some.inj (hcosts.symm.trans htable)
  exact absurd (hreport.symm.trans hview) (by simp)

theorem unfold_everything_topView :
    ∃ catalog' r r', costCatalog.addView topView = .ok catalog' ∧
      unfold costCatalog (Day.ofCount 0) topView.select = .ok r ∧
      unfold catalog' (Day.ofCount 0) (.everything "TOP" .ending) = .ok r' ∧
        r.Alike r' ∧
      r'.items.map SelectItem.label = ["amount", "place"] := by
  have hstored : (costCatalog.addView topView).toOption.isSome = true := by
    decide +kernel
  have hunfolds :
      (unfold costCatalog (Day.ofCount 0) topView.select).toOption.isSome =
      true := by
    decide +kernel
  cases hadd : costCatalog.addView topView with
  | error error => simp [hadd] at hstored
  | ok catalog' =>
      cases hr : unfold costCatalog (Day.ofCount 0) topView.select with
      | error error => simp [hr] at hunfolds
      | ok r =>
          obtain ⟨hiff, hsame⟩ :=
            unfold_everything_storedView (by decide +kernel) parsed_topView
            (by decide +kernel) (by decide +kernel) viewsBelow_costCatalog hadd
              (Day.ofCount 0)
            .ending
          obtain ⟨r', hr'⟩ := hiff.mpr ⟨r, hr⟩
          obtain ⟨halike, -, hlabels⟩ := hsame r r' hr hr'
          exact ⟨catalog', r, r', rfl, rfl, hr', halike, hlabels⟩

end Plan

end ReportQuery
