import ReportQuery.Catalog.ViewStorage
import ReportQuery.Proofs.Lists
import ReportQuery.Proofs.Results

/-!
# What a stored view is made of

A CREATE VIEW statement that the catalog accepts describes one block of columns
for each entry of its select list. The table made of these blocks is found
under the name of the view, and every other name keeps its table.
-/

namespace ReportQuery

/-- The clauses that the view of a statement stores. -/
def CreateView.clauses (create : CreateView) (source : Table) : View where
  source := source.name
  primaryKey := source.aggregateColumn
  conditions := create.select.conditions
  during := create.select.during
  groupBy := create.select.groupBy
  orderBy := create.select.orderBy
  limit := create.select.limit

/-- The table that a statement describes, when its entries become blocks of
columns. -/
def CreateView.table (create : CreateView) (source : Table)
    (blocks : List (List TableColumn)) : Table where
  name := create.name
  aggregateColumn := source.aggregateColumn
  columns := blocks.flatten
  view := some (create.clauses source)

/-- The blocks of columns that the entries of a statement become, and the
counts of names and entries agree. -/
structure CreateView.Describes (create : CreateView) (source : Table)
    (blocks : List (List TableColumn)) : Prop where
  blocks : List.Forall₂
    (fun entry block => source.viewColumns create.columns entry.1 entry.2 =
      .ok block)
    create.select.items.zipIdx blocks
  length : create.columns ≠ [] →
    create.columns.length = create.select.items.length

/-- A column with the name, the method and the mark of an entry, shown under a
name. -/
structure SelectItem.BecomesColumn (item : SelectItem) (given : Option String)
    (column : TableColumn) : Prop where
  name : column.name = item.name
  label : column.label = given.getD item.label
  method : column.method = item.function.map AggregateFunction.name
  distinct : column.distinct = item.distinct

theorem Table.becomesColumn_of_viewColumn {source : Table} {item : SelectItem}
    {given : Option String} {column : TableColumn}
    (h : source.viewColumn item given = .ok column) :
    item.BecomesColumn given column := by
  obtain ⟨metadata, -, rfl⟩ := Except.map_eq_ok_iff.mp h
  refine ⟨rfl, ?_, rfl, rfl⟩
  change ((given.or item.column.aliasName).filter fun name =>
    name != item.name).getD item.name = _
  rw [Option.getD_filter_ne]
  cases given <;> rfl

theorem Table.mem_of_column? {table : Table} {label : String}
    {column : TableColumn} (h : table.column? label = some column) :
    column ∈ table.columns ∧ column.label = label := by
  refine ⟨List.mem_of_find?_eq_some h, ?_⟩
  have htest := List.find?_some h
  simpa using htest

theorem Table.column?_label {view : Table}
    (hlabels : (view.columns.map TableColumn.label).Nodup)
    {column : TableColumn} (h : column ∈ view.columns) :
    view.column? column.label = some column := by
  have hsome : (view.column? column.label).isSome = true := by
    rw [column?, List.find?_isSome]
    exact ⟨column, h, by simp⟩
  obtain ⟨found, hfound⟩ := Option.isSome_iff_exists.mp hsome
  obtain ⟨hmem, hlabel⟩ := mem_of_column? hfound
  rw [hfound, List.inj_on_of_nodup_map hlabels hmem h hlabel]

/-- Whether a table has the column that an entry of this name stands for; a
star counts rows by the column that the table counts. -/
def Table.serves (table : Table) (name : String) : Bool :=
  table.hasColumn (if name == starName then table.aggregateColumn else name)

theorem Table.serves_of_ne {name : String} (hname : name ≠ starName)
    (table : Table) : table.serves name = table.hasColumn name := by
  rw [serves, beq_eq_false_iff_ne.mpr hname]
  rfl

theorem Table.serves_starName (table : Table) :
    table.serves starName = table.hasColumn table.aggregateColumn := rfl

theorem Table.exists_viewColumn_iff {source : Table} {item : SelectItem}
    {given : Option String} :
    (∃ column, source.viewColumn item given = .ok column) ↔
      source.serves item.name = true := by
  simp only [viewColumn, metadata, serves, hasColumn]
  cases source.column?
    (if item.name == starName then source.aggregateColumn else item.name) with
  | none => simp
  | some column => simp

theorem Table.exists_viewColumns_iff {source : Table} {item : SelectItem}
    {index : Nat} :
    (∃ columns, source.viewColumns [] item index = .ok columns) ↔
      (item.isStar = false → source.serves item.name = true) := by
  rw [viewColumns]
  cases hstar : item.isStar with
  | true => simp
  | false => simp [Except.map_eq_ok_iff, exists_viewColumn_iff]

/-- The stored column of an entry has the kind of the source column that the
entry names. -/
theorem Table.origin_of_viewColumn {source : Table} {item : SelectItem}
    {given : Option String} {column : TableColumn}
    (hname : item.name ≠ starName)
    (h : source.viewColumn item given = .ok column) :
    ∃ origin, source.column? item.name = some origin ∧
      origin.kind = column.kind := by
  obtain ⟨metadata, hmetadata, rfl⟩ := Except.map_eq_ok_iff.mp h
  have hbeq : ¬ (item.name == starName) = true := by simp [hname]
  simp only [Table.metadata, if_neg hbeq] at hmetadata
  cases horigin : source.column? item.name with
  | none => simp [horigin] at hmetadata
  | some origin =>
      rw [horigin] at hmetadata
      obtain rfl : origin = metadata := Except.ok.inj hmetadata
      exact ⟨origin, rfl, rfl⟩

/-- Without given names a statement describes columns when its source has those
of its entries. -/
theorem CreateView.exists_describes_iff (create : CreateView)
    (hnames : create.columns = []) {source : Table} :
    (∃ blocks, create.Describes source blocks) ↔
      ∀ item ∈ create.select.items, item.isStar = false →
        source.serves item.name = true := by
  have hblocks : (∃ blocks, create.Describes source blocks) ↔
      ∃ blocks, List.Forall₂
        (fun entry block => source.viewColumns create.columns entry.1 entry.2 =
          .ok block)
        create.select.items.zipIdx blocks := by
    constructor
    · rintro ⟨blocks, h⟩
      exact ⟨blocks, h.blocks⟩
    · rintro ⟨blocks, h⟩
      exact ⟨blocks, h, fun hne => absurd hnames hne⟩
  rw [hblocks, List.exists_forall₂_iff, hnames]
  simp only [Table.exists_viewColumns_iff]
  constructor
  · intro h item hitem
    obtain ⟨index, hindex⟩ := List.mem_iff_getElem?.mp hitem
    exact h (item, index) (List.mem_zipIdx_iff_getElem?.mpr hindex)
  · intro h entry hentry
    exact h entry.1 (List.fst_mem_of_mem_zipIdx hentry)

/-- A described column is one of the source that a star shows, or that of
another entry. -/
theorem CreateView.Describes.cases_of_mem {create : CreateView} {source : Table}
    {blocks : List (List TableColumn)} (h : create.Describes source blocks)
    {column : TableColumn} (hmem : column ∈ blocks.flatten) :
    (∃ item ∈ create.select.items, item.isStar = true ∧
        ∃ origin ∈ source.columns, origin.exposed = column) ∨
      ∃ item ∈ create.select.items, item.isStar = false ∧
        ∃ given, source.viewColumn item given = .ok column := by
  obtain ⟨block, hblock, hcolumn⟩ := List.mem_flatten.mp hmem
  obtain ⟨⟨item, index⟩, hentry, hcolumns⟩ :=
    List.exists_left_of_forall₂ h.blocks hblock
  have hitem := List.fst_mem_of_mem_zipIdx hentry
  rw [Table.viewColumns] at hcolumns
  split at hcolumns
  · next hstar =>
      split at hcolumns
      · obtain rfl := Except.ok.inj hcolumns
        exact Or.inl ⟨item, hitem, hstar, List.mem_map.mp hcolumn⟩
      · simp at hcolumns
  · next hstar =>
      obtain ⟨only, honly, rfl⟩ := Except.map_eq_ok_iff.mp hcolumns
      obtain rfl := List.mem_singleton.mp hcolumn
      exact Or.inr ⟨item, hitem, Bool.not_eq_true _ ▸ hstar, _, honly⟩

/-- Without a star every entry of the select list is stored as one column. -/
theorem CreateView.Describes.viewColumns {create : CreateView} {source : Table}
    {blocks : List (List TableColumn)} (h : create.Describes source blocks)
    (hstar : ∀ item ∈ create.select.items, item.isStar = false) :
    List.Forall₂
      (fun entry column => source.viewColumn entry.1 create.columns[entry.2]? =
        .ok column)
      create.select.items.zipIdx blocks.flatten := by
  have hentries : ∀ entry ∈ create.select.items.zipIdx,
      entry.1.isStar = false :=
    fun entry hentry => hstar entry.1 (List.fst_mem_of_mem_zipIdx hentry)
  obtain ⟨hblocks, -⟩ := h
  generalize create.select.items.zipIdx = entries at hentries hblocks
  induction hblocks with
  | nil => exact .nil
  | @cons entry block entries blocks hblock _ ih =>
      rw [Table.viewColumns, hentries entry (by simp)] at hblock
      obtain ⟨column, hcolumn, rfl⟩ := Except.map_eq_ok_iff.mp hblock
      exact .cons hcolumn (ih fun other hother =>
        hentries other (by simp [hother]))

theorem CreateView.Describes.columns {create : CreateView} {source : Table}
    {blocks : List (List TableColumn)} (h : create.Describes source blocks)
    (hstar : ∀ item ∈ create.select.items, item.isStar = false) :
    List.Forall₂
      (fun entry column => entry.1.BecomesColumn
        create.columns[entry.2]? column)
      create.select.items.zipIdx blocks.flatten :=
  (h.viewColumns hstar).imp fun _ _ hcolumn =>
    Table.becomesColumn_of_viewColumn hcolumn

theorem names_of_becomesColumn {names : List String}
    {entries : List (SelectItem × Nat)} {columns : List TableColumn}
    (h : List.Forall₂
      (fun entry column => entry.1.BecomesColumn names[entry.2]? column) entries
      columns) :
    columns.map TableColumn.name = entries.map fun entry => entry.1.name := by
  induction h with
  | nil => rfl
  | cons hcolumn _ ih => rw [List.map_cons, List.map_cons, hcolumn.name, ih]

theorem CreateView.Describes.names {create : CreateView} {source : Table}
    {blocks : List (List TableColumn)} (h : create.Describes source blocks)
    (hstar : ∀ item ∈ create.select.items, item.isStar = false) :
    blocks.flatten.map TableColumn.name =
      create.select.items.map SelectItem.name := by
  have hfst : (fun entry : SelectItem × Nat => entry.1.name) =
      SelectItem.name ∘ Prod.fst := rfl
  rw [names_of_becomesColumn (h.columns hstar), hfst, ← List.map_map,
    List.zipIdx_map_fst]

namespace Catalog

theorem name_of_table? {catalog : Catalog} {name : String} {table : Table}
    (h : catalog.table? name = some table) : table.name = name := by
  have hfound := List.find?_some h
  simpa using hfound

theorem checkName_eq_ok_iff {catalog : Catalog} {create : CreateView} :
    catalog.checkName create = .ok () ↔
      ∀ existing, catalog.table? create.name = some existing →
        create.replace = true ∧ existing.isView = true := by
  rw [checkName]
  split
  · next existing hfound =>
      rw [hfound]
      split
      · next hallowed => simpa using hallowed
      · next hrefused => simpa using hrefused
  · next hfound => simp [hfound]

/-- Storing checks the name, looks up the source, compares the counts and makes
the blocks. -/
theorem viewTable_eq (catalog : Catalog) (create : CreateView) :
    catalog.viewTable create =
      (catalog.checkName create).bind fun _ =>
        (catalog.table create.select.source).bind fun source =>
          if create.columns ≠ [] ∧
            create.columns.length ≠ create.select.items.length then
            .error (.columnCount create.select.items.length
              create.columns.length)
          else
            (create.select.items.zipIdx.mapM fun entry =>
              source.viewColumns create.columns entry.1 entry.2).map
                (create.table source) := by
  rw [viewTable]
  cases catalog.checkName create with
  | error error => rfl
  | ok _ =>
      cases hsource : catalog.table create.select.source with
      | error error => simp only [bind, Except.bind, hsource]
      | ok source =>
          by_cases hcount : create.columns ≠ [] ∧
              create.columns.length ≠ create.select.items.length
          · simp [hsource, hcount, bind, throw, throwThe, MonadExceptOf.throw]
          · have hbool : (!create.columns.isEmpty &&
                create.columns.length != create.select.items.length) =
                false := by
              simpa [Decidable.not_and_iff_or_not] using hcount
            simp only [bind, Except.bind, hsource, hbool, if_neg hcount]
            rfl

theorem viewTable_eq_ok_iff {catalog : Catalog} {create : CreateView}
    {table : Table} :
    catalog.viewTable create = .ok table ↔
      catalog.checkName create = .ok () ∧
        ∃ source blocks, catalog.table? create.select.source = some source ∧
          create.Describes source blocks ∧
            create.table source blocks = table := by
  rw [viewTable_eq, Except.bind_eq_ok_iff]
  constructor
  · rintro ⟨⟨⟩, hname, hrest⟩
    obtain ⟨source, hsource, hrest⟩ := Except.bind_eq_ok_iff.mp hrest
    split at hrest
    · simp at hrest
    · next hcount =>
        obtain ⟨blocks, hblocks, htable⟩ := Except.map_eq_ok_iff.mp hrest
        refine ⟨hname, source, blocks, table_eq_ok_iff.mp hsource,
          ⟨Except.mapM_eq_ok_iff.mp hblocks, ?_⟩, htable⟩
        intro hne
        by_contra hlength
        exact hcount ⟨hne, hlength⟩
  · rintro ⟨hname, source, blocks, hsource, hdescribes, htable⟩
    refine ⟨(), hname, Except.bind_eq_ok_iff.mpr
      ⟨source, table_eq_ok_iff.mpr hsource, ?_⟩⟩
    rw [if_neg fun hcount => hcount.2 (hdescribes.length hcount.1)]
    exact Except.map_eq_ok_iff.mpr
      ⟨blocks, Except.mapM_eq_ok_iff.mpr hdescribes.blocks, htable⟩

/-- The catalog with a table under its name, in the place of another one with
this name if there is any. -/
def storing (catalog : Catalog) (stored : Table) : Catalog :=
  { catalog with tables := put stored catalog.tables }

/-- A statement is stored exactly when its name is free to use and its entries
describe columns. -/
theorem addView_eq_ok_iff {catalog catalog' : Catalog} {create : CreateView} :
    catalog.addView create = .ok catalog' ↔
      catalog.checkName create = .ok () ∧
        ∃ source blocks, catalog.table? create.select.source = some source ∧
          create.Describes source blocks ∧
          catalog.storing (create.table source blocks) = catalog' := by
  rw [addView, Except.map_eq_ok_iff]
  constructor
  · rintro ⟨table, htable, rfl⟩
    obtain ⟨hname, source, blocks, hsource, hdescribes, rfl⟩ :=
      viewTable_eq_ok_iff.mp htable
    exact ⟨hname, source, blocks, hsource, hdescribes, rfl⟩
  · rintro ⟨hname, source, blocks, hsource, hdescribes, rfl⟩
    exact ⟨create.table source blocks,
      viewTable_eq_ok_iff.mpr ⟨hname, source, blocks, hsource, hdescribes, rfl⟩,
      rfl⟩

/-- Under a new name, and without given names, a statement is stored exactly
when its source has the columns of its entries. -/
theorem exists_addView_iff {catalog : Catalog} (create : CreateView)
    {source : Table} (hfresh : catalog.table? create.name = none)
    (hnames : create.columns = [])
    (hsource : catalog.table? create.select.source = some source) :
    (∃ catalog', catalog.addView create = .ok catalog') ↔
      ∀ item ∈ create.select.items, item.isStar = false →
        source.serves item.name = true := by
  have hfree : catalog.checkName create = .ok () := by
    rw [checkName_eq_ok_iff]
    intro existing hexisting
    simp [hfresh] at hexisting
  rw [← create.exists_describes_iff hnames]
  constructor
  · rintro ⟨catalog', hadd⟩
    obtain ⟨-, found, blocks, hfound, hdescribes, -⟩ :=
      addView_eq_ok_iff.mp hadd
    obtain rfl := Option.some.inj (hsource.symm.trans hfound)
    exact ⟨blocks, hdescribes⟩
  · rintro ⟨blocks, hdescribes⟩
    exact ⟨_, addView_eq_ok_iff.mpr ⟨hfree, source, blocks, hsource,
      hdescribes, rfl⟩⟩

theorem eq_or_mem_of_mem_put {stored table : Table} {tables : List Table}
    (h : table ∈ put stored tables) : table = stored ∨ table ∈ tables := by
  induction tables with
  | nil => exact Or.inl (List.mem_singleton.mp h)
  | cons other rest ih =>
      rw [put] at h
      by_cases hname : other.name = stored.name
      · rw [if_pos (beq_iff_eq.mpr hname)] at h
        exact (List.mem_cons.mp h).imp_right (List.mem_cons_of_mem other)
      · rw [if_neg (mt beq_iff_eq.mp hname)] at h
        rcases List.mem_cons.mp h with rfl | hrest
        · exact Or.inr List.mem_cons_self
        · exact (ih hrest).imp_right (List.mem_cons_of_mem other)

theorem table?_storing_same (catalog : Catalog) (stored : Table) :
    (catalog.storing stored).table? stored.name = some stored :=
  find?_put_same stored catalog.tables

theorem table?_storing_other (catalog : Catalog) {stored : Table}
    {name : String} (h : name ≠ stored.name) :
    (catalog.storing stored).table? name = catalog.table? name :=
  find?_put_other h catalog.tables

/-- A table is found under a name because it was stored under it, or because it
was there. -/
theorem table?_storing_eq_some_iff {catalog : Catalog} {stored table : Table}
    {name : String} :
    (catalog.storing stored).table? name = some table ↔
      name = stored.name ∧ table = stored ∨
        name ≠ stored.name ∧ catalog.table? name = some table := by
  by_cases hname : name = stored.name
  · subst hname
    simp [table?_storing_same, eq_comm]
  · simp [table?_storing_other catalog hname, hname]

/-- A report stays in place when a view is stored. -/
theorem table?_of_addView {catalog catalog' : Catalog} {create : CreateView}
    {report : Table} (hadd : catalog.addView create = .ok catalog')
    {name : String} (hreport : catalog.table? name = some report)
    (hbase : report.view = none) : catalog'.table? name = some report := by
  obtain ⟨hfree, source, blocks, -, -, rfl⟩ := addView_eq_ok_iff.mp hadd
  have hne : name ≠ create.name := by
    rintro rfl
    obtain ⟨-, hview⟩ := checkName_eq_ok_iff.mp hfree report hreport
    simp [Table.isView, hbase] at hview
  rw [table?_storing_other catalog hne, hreport]

end Catalog

end ReportQuery
