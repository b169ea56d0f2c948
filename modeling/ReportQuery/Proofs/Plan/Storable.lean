import ReportQuery.Proofs.Plan.Bind
import ReportQuery.Proofs.Plan.Chain
import ReportQuery.Statement.Grammar

/-!
# Storing a statement that runs

A statement that unfolds and binds names columns of its own source all the way
down, so that its entries describe columns of a view. The one exception is an
entry that counts rows. Binding looks the counted column up in the report at
the end of the chain, storing in the source of the statement, and a view need
not show the column that it inherits as the counted one.
-/

namespace ReportQuery

/-- Whether an entry of a statement counts rows. -/
def Select.CountsRows (s : Select) : Prop :=
  ∃ item ∈ s.items, item.isStar = false ∧ item.name = starName

namespace Plan

/-! ## What running shows -/

theorem serves_of_boundColumn {report : Table} {item : SelectItem}
    {column : TableColumn} (h : boundColumn report item = .ok column) :
    item.isStar = false ∧ report.serves item.name = true := by
  have hstar : item.isStar = false := by
    rw [← Bool.not_eq_true]
    intro htrue
    simp [boundColumn, htrue] at h
  exact ⟨hstar, (exists_boundColumn_iff hstar).mp ⟨column, h⟩⟩

theorem hasColumn_of_images {table : Table} {item : SelectItem}
    {block : List SelectItem} (h : images table item = .ok block)
    (hstar : item.isStar = false) (hname : item.name ≠ starName) :
    table.hasColumn item.name = true := by
  rw [images_of_not_star hstar] at h
  obtain ⟨image, himage, -⟩ := Except.map_eq_ok_iff.mp h
  rcases mapItem_eq_ok_iff.mp himage with ⟨heq, -⟩ | ⟨-, column, hcolumn, -⟩
  · exact absurd heq hname
  · exact Option.isSome_iff_exists.mpr ⟨column, hcolumn⟩

/-- The source of a statement that runs has the columns that the statement
names, and a report also has the one that it counts. -/
theorem serves_of_prepare {catalog : Catalog} {today : Day} {s : Select}
    {bound : BoundSelect} (hruns : prepare catalog today s = .ok bound) :
    ∃ source, catalog.table? s.source = some source ∧
      ∀ item ∈ s.items, item.isStar = false →
        (item.name = starName → source.view = none) →
        source.serves item.name = true := by
  obtain ⟨r, hunfold, hbind⟩ := Except.bind_eq_ok_iff.mp hruns
  obtain ⟨source, hsource, ⟨hreport, rfl⟩ | ⟨view, merged, hview, hmerge, -⟩⟩ :=
    unfoldWithin_succ_eq_ok_iff.mp hunfold
  · refine ⟨source, hsource, ?_⟩
    intro item hitem _ _
    obtain ⟨report, columns, hfound, hcolumns, -, -⟩ := bind_eq_ok_iff.mp hbind
    obtain rfl := Option.some.inj (hsource.symm.trans hfound)
    obtain ⟨column, -, hcolumn⟩ := List.exists_right_of_forall₂ hcolumns hitem
    exact (serves_of_boundColumn hcolumn).2
  · refine ⟨source, hsource, ?_⟩
    intro item hitem hstar hcounted
    have hname : item.name ≠ starName := by
      intro heq
      simp [hcounted heq] at hview
    obtain ⟨blocks, -, -, hblocks, -, -, -⟩ := merge_eq_ok_iff.mp hmerge
    obtain ⟨block, -, hblock⟩ := List.exists_right_of_forall₂ hblocks hitem
    rw [Table.serves_of_ne hname]
    exact hasColumn_of_images hblock hstar hname

/-- A statement that runs is stored under a new name exactly when its source
has the column that it counts, in case the statement counts rows. On a report
it always is. -/
theorem addView_of_prepare_iff {catalog : Catalog} {today : Day} {s : Select}
    {bound : BoundSelect} (hruns : prepare catalog today s = .ok bound)
    {name : String} (hfresh : catalog.table? name = none) (replace : Bool) :
    ∃ source, catalog.table? s.source = some source ∧
      ((∃ catalog',
          catalog.addView { replace, name, columns := [], select := s } =
            .ok catalog') ↔
        (s.CountsRows → source.hasColumn source.aggregateColumn = true)) ∧
      (source.view = none →
        ∃ catalog',
          catalog.addView { replace, name, columns := [], select := s } =
            .ok catalog') := by
  obtain ⟨source, hsource, hserves⟩ := serves_of_prepare hruns
  have hstored := Catalog.exists_addView_iff
    { replace, name, columns := [], select := s } hfresh rfl hsource
  refine ⟨source, hsource, ?_, ?_⟩
  · rw [hstored]
    constructor
    · rintro hall ⟨item, hitem, hstar, hname⟩
      have hitemServes := hall item hitem hstar
      rwa [hname] at hitemServes
    · intro hcounted item hitem hstar
      by_cases hname : item.name = starName
      · rw [hname]
        exact hcounted ⟨item, hitem, hstar, hname⟩
      · exact hserves item hitem hstar fun heq => absurd heq hname
  · intro hreport
    rw [hstored]
    intro item hitem hstar
    exact hserves item hitem hstar fun _ => hreport

/-- A catalog with a report of shops, a view with the column that the report
counts, and a view without it. -/
def shopViews : Catalog where
  version := "v1"
  tables := [
    { name := "SHOPS", aggregateColumn := "Id",
      columns := [{ name := "Id" }, { name := "City" }] },
    { name := "places"
      aggregateColumn := "Id"
      columns :=
        [{ name := "Id" }, { name := "City", aliasName := some "town" }]
      view := some { source := "SHOPS", primaryKey := "Id" } },
    { name := "cities"
      aggregateColumn := "Id"
      columns := [{ name := "City" }]
      view := some { source := "SHOPS", primaryKey := "Id" } }]

/-- The number of shops in every town. -/
def townCounts : Select where
  items := [
    { column := { name := "town" } },
    { column := { name := starName }, function := some .count }]
  source := "places"
  groupBy := [⟨{ name := "town" }, 1⟩]

theorem addView_townCounts :
    (prepare shopViews Day.epoch townCounts).toOption.isSome = true ∧
      shopViews.table? "counts" = none ∧
      ∃ catalog', shopViews.addView
        { replace := false, name := "counts", columns := [],
          select := townCounts } = .ok catalog' := by
  have hruns : (prepare shopViews Day.epoch townCounts).toOption.isSome =
      true := by
    decide +kernel
  have hfresh : shopViews.table? "counts" = none := by decide +kernel
  have hcounted : ∀ source, shopViews.table? townCounts.source = some source →
      source.hasColumn source.aggregateColumn = true := by
    intro source hsource
    have hplaces : shopViews.table? townCounts.source =
        some shopViews.tables[1] := by
      decide +kernel
    obtain rfl := Option.some.inj (hplaces.symm.trans hsource)
    decide +kernel
  refine ⟨hruns, hfresh, ?_⟩
  cases hbound : prepare shopViews Day.epoch townCounts with
  | error error => simp [hbound] at hruns
  | ok bound =>
      obtain ⟨source, hsource, hiff, -⟩ :=
        addView_of_prepare_iff hbound hfresh false
      exact hiff.mpr fun _ => hcounted source hsource

/-- The number of shops, by way of their cities. -/
def cityCount : Select where
  items := [{ column := { name := starName }, function := some .count }]
  source := "cities"

/-- The rows of a view without the counted column can be counted, and the count
cannot be stored. -/
theorem not_addView_cityCount :
    parseStatement "SELECT COUNT(*) FROM cities" = .ok (.select cityCount) ∧
      (prepare shopViews Day.epoch cityCount).toOption.isSome = true ∧
      parseStatement "CREATE VIEW total AS SELECT COUNT(*) FROM cities" =
        .ok (.createView
          { replace := false, name := "total", columns := [],
            select := cityCount }) ∧
      shopViews.table? "total" = none ∧
      shopViews.addView
          { replace := false, name := "total", columns := [],
            select := cityCount } =
        .error (.unknownColumn "cities" starName) := by
  refine ⟨?_, ?_, ?_, ?_, ?_⟩ <;> decide +kernel

end Plan

end ReportQuery
