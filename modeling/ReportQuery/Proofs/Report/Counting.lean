import ReportQuery.Proofs.Report.Grouping
import ReportQuery.Statement.Grammar

/-!
# What COUNT counts

COUNT takes every record of its group, whatever the record's values are. A
statement with a function that has neither GROUP BY nor DISTINCT has one group,
which is there as soon as there is a record: its row counts all of them, and
without records there is no row. DISTINCT within COUNT does not change what is
counted. It marks a column, and where there is no GROUP BY the marked columns
are those that tell groups apart, as they are outside of a function.
-/

namespace ReportQuery

/-- The cell of a number of records. -/
def Cell.ofCount (n : Nat) : Cell :=
  Cell.float (some (Float.ofNat n)) 0

/-- A COUNT column has taken a number of records. -/
def BoundColumn.Counted (n : Nat) (column : BoundColumn) (tally : Tally) :
    Prop :=
  column.function = some .count → tally.accumulator.rows = n

namespace BoundSelect

/-- The COUNT columns of a row hold a number. -/
def Counts (bound : BoundSelect) (n : Nat) (row : List Cell) : Prop :=
  ∀ (i : Nat) (column : BoundColumn), bound.columns[i]? = some column →
    column.function = some .count → row[i]? = some (Cell.ofCount n)

/-- The raw values of the columns that tell groups apart. -/
def keyValues (bound : BoundSelect) (record : List String) : List String :=
  bound.keyColumns.map fun column => column.raw record

/-- Within a column that tells groups apart, different values of records have
different hashes. -/
def TellsApart (bound : BoundSelect) (records : List (List String)) : Prop :=
  ∀ column ∈ bound.keyColumns, ∀ first ∈ records, ∀ second ∈ records,
    Hash.ofText (column.raw first) = Hash.ofText (column.raw second) →
      column.raw first = column.raw second

end BoundSelect

variable {bound : BoundSelect} {record : List String}
  {records : List (List String)}

/-! ## One group -/

theorem BoundColumn.Counted.step {n : Nat} {column : BoundColumn}
    {tally tally' : Tally} (h : column.Counted n tally)
    (hstep : column.step record tally = .ok tally') :
    column.Counted (n + 1) tally' := by
  intro hcount
  rw [BoundColumn.step, hcount] at hstep
  obtain rfl := Except.ok.inj hstep
  exact congrArg (· + 1) (h hcount)

namespace BoundSelect

theorem counted_emptyTallies (bound : BoundSelect) :
    List.Forall₂ (BoundColumn.Counted 0) bound.columns bound.emptyTallies := by
  rw [emptyTallies, List.forall₂_map_right_iff, List.forall₂_same]
  intro column _ _
  rfl

/-- Every COUNT column has taken as many records as there are. -/
theorem counted_tally {tallies : List Tally}
    (h : bound.tally records = .ok tallies) :
    List.Forall₂ (BoundColumn.Counted records.length) bound.columns
      tallies := by
  induction records using List.reverseRecOn generalizing tallies with
  | nil =>
      obtain rfl := Except.ok.inj h
      exact bound.counted_emptyTallies
  | append_singleton seen record ih =>
      rw [tally_append_singleton] at h
      obtain ⟨before, hbefore, hadvance⟩ := Except.bind_eq_ok_iff.mp h
      rw [List.length_append, List.length_singleton]
      exact forall₂_advance (fun _ _ _ hcounted hstep => hcounted.step hstep)
        (ih hbefore) hadvance

theorem counts_finishRow {n : Nat} {tallies : List Tally}
    (h : List.Forall₂ (BoundColumn.Counted n) bound.columns tallies) :
    bound.Counts n (bound.finishRow tallies) := by
  intro i column hcolumn hcount
  obtain ⟨hi, rfl⟩ := List.getElem?_eq_some_iff.mp hcolumn
  have htally : i < tallies.length := h.length_eq ▸ hi
  have hrows : tallies[i].accumulator.rows = n := h.get hi htally hcount
  rw [finishRow, List.getElem?_zipWith, List.getElem?_eq_getElem hi,
    List.getElem?_eq_getElem htally]
  simp only [BoundColumn.finish, hcount, Accumulator.finish, hrows,
    Cell.ofCount]

/-! ## All groups -/

/-- The COUNT columns of a row hold the number of records with its key. -/
theorem counts_of_aggregate (hkeeps : bound.keepsRecords = false)
    {rows : List (List Cell)} (h : bound.aggregate records = .ok rows) :
    List.Forall₂
      (fun key row => bound.Counts (bound.recordsOf key records).length row)
      (bound.keysOf records) rows :=
  forall₂_rows_of_tallies hkeeps h fun _ _ _ htally =>
    counts_finishRow (counted_tally htally)

/-! ## Totals -/

/-- Records that no column tells apart are one group. -/
theorem recordsOf_nil_of_keyColumns (h : bound.keyColumns = [])
    (records : List (List String)) : bound.recordsOf [] records = records := by
  rw [recordsOf, List.filter_eq_self]
  intro record _
  simp [groupKey, h]

/-- The row of a total counts all records, and it is there as soon as there is
one of them. -/
theorem rows_of_total
    (hfunction : ∃ column ∈ bound.columns, column.function.isSome = true)
    (hdistinct : ∀ column ∈ bound.columns, column.distinct = false)
    (hgroupBy : bound.groupBy = []) {rows : List (List Cell)}
    (h : bound.aggregate records = .ok rows) :
    rows.length = min 1 records.length ∧
      ∀ row ∈ rows, bound.Counts records.length row := by
  have hcolumns : bound.keyColumns = [] := by
    rw [keyColumns, hgroupBy, List.isEmpty_nil, if_pos rfl,
      List.filter_eq_nil_iff]
    intro column hcolumn
    simp [hdistinct column hcolumn]
  have hkeeps : bound.keepsRecords = false := by
    obtain ⟨column, hcolumn, hsome⟩ := hfunction
    exact keepsRecords_of_function hcolumn hsome
  have hcounts := counts_of_aggregate hkeeps h
  have hall := recordsOf_nil_of_keyColumns hcolumns records
  cases records with
  | nil =>
      obtain rfl := List.forall₂_nil_left_iff.mp hcounts
      exact ⟨rfl, by simp⟩
  | cons first rest =>
      have hmem : [] ∈ bound.keysOf (first :: rest) :=
        mem_keysOf.mpr ⟨first, List.mem_cons_self, by simp [groupKey, hcolumns]⟩
      have hkeys : bound.keysOf (first :: rest) = [[]] := by
        have hone := keysOf_recordsOf hmem
        rwa [hall] at hone
      rw [hkeys] at hcounts
      obtain ⟨row, others, hrow, hothers, rfl⟩ :=
        List.forall₂_cons_left_iff.mp hcounts
      obtain rfl := List.forall₂_nil_left_iff.mp hothers
      rw [hall] at hrow
      refine ⟨by simp, ?_⟩
      intro other hother
      obtain rfl := List.mem_singleton.mp hother
      exact hrow

/-- The only report of the catalog of sales. -/
def salesReport : Table :=
  salesCatalog.tables.head (List.cons_ne_nil _ _)

/-- `SELECT COUNT(*), MAX(Amount) FROM SALES` -/
def salesTotal : Select where
  items := [{ column := { name := "*" }, function := some .count },
    { column := { name := "Amount" }, function := some .max }]
  source := "SALES"

/-- The total bound to its report, whose first column is counted. -/
def boundSalesTotal : BoundSelect :=
  let amount : TableColumn := { name := "Amount", kind := "LONG" }
  Plan.boundSelect salesTotal salesReport [amount, amount]

theorem rows_of_total_boundSalesTotal :
    Plan.bind salesCatalog salesTotal = .ok boundSalesTotal ∧
    (∃ column ∈ boundSalesTotal.columns, column.function.isSome = true) ∧
    (∀ column ∈ boundSalesTotal.columns, column.distinct = false) ∧
    boundSalesTotal.groupBy = [] ∧
    ∃ row, boundSalesTotal.aggregate [["1"], [" --"], ["3"]] = .ok [row] ∧
      boundSalesTotal.Counts 3 row ∧ (row[0]?.map Cell.render) = some "3" := by
  have hfunction : ∃ column ∈ boundSalesTotal.columns, column.function.isSome =
      true := by
    decide
  have hdistinct : ∀ column ∈ boundSalesTotal.columns,
      column.distinct = false := by
    decide
  refine ⟨by decide, hfunction, hdistinct, rfl, ?_⟩
  obtain ⟨rows, hrows⟩ := (boundSalesTotal.exists_aggregate_eq_ok_iff
    [["1"], [" --"], ["3"]]).mpr (by decide)
  obtain ⟨hlength, hcounts⟩ := rows_of_total hfunction hdistinct rfl hrows
  obtain ⟨row, rfl⟩ := List.length_eq_one_iff.mp hlength
  have hcount := hcounts row List.mem_cons_self
  refine ⟨row, hrows, hcount, ?_⟩
  rw [hcount 0 boundSalesTotal.columns[0] rfl rfl]
  decide

/-- Without records there is no row that would count none. -/
theorem rows_of_total_nil :
    parseStatement "SELECT COUNT(*), MAX(Amount) FROM SALES" =
      .ok (.select salesTotal) ∧
    Plan.bind salesCatalog salesTotal = .ok boundSalesTotal ∧
    (∃ column ∈ boundSalesTotal.columns, column.function.isSome = true) ∧
    (∀ column ∈ boundSalesTotal.columns, column.distinct = false) ∧
    boundSalesTotal.groupBy = [] ∧
    boundSalesTotal.aggregate [] = .ok [] := by
  exact ⟨by
    decide +kernel, by decide +kernel, by decide +kernel, by
    decide +kernel, rfl, rfl⟩

/-! ## Groups told apart by values -/

theorem groupKey_eq_map_keyValues (bound : BoundSelect) (record : List String) :
    bound.groupKey record = (bound.keyValues record).map Hash.ofText := by
  rw [keyValues, List.map_map]
  rfl

theorem TellsApart.groupKey_eq_iff (h : bound.TellsApart records)
    {first second : List String} (hfirst : first ∈ records)
    (hsecond : second ∈ records) :
    bound.groupKey first = bound.groupKey second ↔
      bound.keyValues first = bound.keyValues second := by
  rw [groupKey, groupKey, keyValues, keyValues, List.map_inj_left,
    List.map_inj_left]
  constructor
  · intro hhash column hcolumn
    exact h column hcolumn first hfirst second hsecond (hhash column hcolumn)
  · intro hvalues column hcolumn
    rw [hvalues column hcolumn]

/-- Keys stand in the order of the values that they are made of. -/
theorem TellsApart.keysOf_eq (h : bound.TellsApart records) :
    bound.keysOf records =
      (records.map bound.keyValues).eraseDups.map (List.map Hash.ofText) := by
  have hkeys : records.map bound.groupKey =
      (records.map bound.keyValues).map (List.map Hash.ofText) := by
    rw [List.map_map]
    exact List.map_congr_left fun record _ =>
      bound.groupKey_eq_map_keyValues record
  rw [keysOf, hkeys, List.eraseDups_map]
  intro values hvalues others hothers heq
  obtain ⟨first, hfirst, rfl⟩ := List.mem_map.mp hvalues
  obtain ⟨second, hsecond, rfl⟩ := List.mem_map.mp hothers
  rw [← groupKey_eq_map_keyValues, ← groupKey_eq_map_keyValues] at heq
  exact (h.groupKey_eq_iff hfirst hsecond).mp heq

/-- The records of a key are those with its values. -/
theorem TellsApart.length_recordsOf (h : bound.TellsApart records)
    {values : List String} (hvalues : values ∈ records.map bound.keyValues) :
    (bound.recordsOf (values.map Hash.ofText) records).length =
      records.countP fun record => bound.keyValues record == values := by
  obtain ⟨first, hfirst, rfl⟩ := List.mem_map.mp hvalues
  rw [recordsOf, ← groupKey_eq_map_keyValues, ← List.countP_eq_length_filter]
  refine List.countP_congr fun record hrecord => ?_
  rw [beq_iff_eq, beq_iff_eq]
  exact h.groupKey_eq_iff hrecord hfirst

/-- Every combination of values that tell groups apart has a row, in the order
of first records, and the COUNT columns of the row hold the number of records
with these values. -/
theorem TellsApart.counts_of_aggregate (h : bound.TellsApart records)
    (hkeeps : bound.keepsRecords = false) {rows : List (List Cell)}
    (hrows : bound.aggregate records = .ok rows) :
    List.Forall₂
      (fun values row =>
        bound.Counts (records.countP fun record =>
          bound.keyValues record == values) row)
      (records.map bound.keyValues).eraseDups rows := by
  have hcounts := BoundSelect.counts_of_aggregate hkeeps hrows
  rw [h.keysOf_eq, List.forall₂_map_left_iff] at hcounts
  refine List.forall₂_imp_of_mem hcounts fun values hvalues row _ hrow => ?_
  rwa [h.length_recordsOf (List.mem_eraseDups.mp hvalues)] at hrow

/-! ## COUNT with DISTINCT -/

theorem groupBy_of_bind {catalog : Catalog} {select : Select}
    (h : Plan.bind catalog select = .ok bound) :
    bound.groupBy = select.groupBy.map fun p => p.position - 1 := by
  obtain ⟨table, columns, -, -, -, rfl⟩ := Plan.bind_eq_ok_iff.mp h
  rfl

/-- An entry is bound to a column with its function and its mark. -/
theorem entries_of_bind {catalog : Catalog} {select : Select}
    (h : Plan.bind catalog select = .ok bound) :
    List.Forall₂ (fun (item : SelectItem) column =>
      column.function = item.function ∧ column.distinct = item.distinct)
      select.items bound.columns := by
  obtain ⟨table, columns, -, hcolumns, -, rfl⟩ := Plan.bind_eq_ok_iff.mp h
  exact List.forall₂_zipWith hcolumns fun _ _ _ => ⟨rfl, rfl⟩

/-- A statement that counts a column marked DISTINCT, and marks no other,
counts records. Its rows are for the values of the grouped columns, or for
those of the marked column where there is no GROUP BY, and the count of a row
is the number of all records with the values. -/
theorem rows_of_countDistinct {catalog : Catalog} {select : Select}
    (hbind : Plan.bind catalog select = .ok bound) {i : Nat} {item : SelectItem}
    (hitem : select.items[i]? = some item)
    (hcount : item.function = some .count) (hdistinct : item.distinct = true)
    (hothers : ∀ (j : Nat) (other : SelectItem), select.items[j]? = some other →
      j ≠ i → other.distinct = false)
    (hapart : bound.TellsApart records) {rows : List (List Cell)}
    (hrows : bound.aggregate records = .ok rows) :
    ∃ column, bound.columns[i]? = some column ∧
      bound.keyColumns =
        (if select.groupBy = [] then [column]
        else select.groupBy.filterMap fun p => bound.columns[p.position - 1]?) ∧
      List.Forall₂
        (fun values row => row[i]? = some
          (Cell.ofCount (records.countP fun record =>
            bound.keyValues record == values)))
        (records.map bound.keyValues).eraseDups rows := by
  have hentries := entries_of_bind hbind
  have hgroupBy := groupBy_of_bind hbind
  obtain ⟨hi, rfl⟩ := List.getElem?_eq_some_iff.mp hitem
  have hcolumn : i < bound.columns.length := hentries.length_eq ▸ hi
  obtain ⟨hfunction, hmark⟩ := hentries.get hi hcolumn
  simp only [List.get_eq_getElem] at hfunction hmark
  have hunmarked : ∀ (j : Nat) (other : BoundColumn),
      bound.columns[j]? = some other → j ≠ i → other.distinct = false := by
    intro j other hother hne
    obtain ⟨hj, rfl⟩ := List.getElem?_eq_some_iff.mp hother
    have hj' : j < select.items.length := hentries.length_eq ▸ hj
    have hsame := (hentries.get hj' hj).2
    simp only [List.get_eq_getElem] at hsame
    rw [hsame]
    exact hothers j _ (List.getElem?_eq_getElem hj') hne
  have hcollapses : bound.collapses = true :=
    List.any_eq_true.mpr ⟨_,
      List.getElem_mem hcolumn, by simp [hmark, hdistinct]⟩
  have hkeeps : bound.keepsRecords = false := by simp [keepsRecords, hcollapses]
  refine ⟨bound.columns[i], List.getElem?_eq_getElem hcolumn, ?_, ?_⟩
  · rw [keyColumns, hgroupBy]
    cases select.groupBy with
    | nil =>
        exact List.filter_eq_singleton (List.getElem?_eq_getElem hcolumn)
          (hmark.trans hdistinct) hunmarked
    | cons p rest =>
        rw [if_neg (by simp), if_neg (by simp), List.filterMap_map]
        rfl
  · refine (hapart.counts_of_aggregate hkeeps hrows).imp
      fun values row hcounts => ?_
    exact hcounts i _ (List.getElem?_eq_getElem hcolumn)
      (hfunction.trans hcount)

/-- `SELECT City, COUNT(DISTINCT Amount) FROM SALES GROUP BY City` -/
def amountsByCity : Select where
  items := [{ column := { name := "City" } },
    { column := { name := "Amount" }, function := some .count,
      distinct := true }]
  source := "SALES"
  groupBy := [⟨{ name := "City" }, 1⟩]

/-- The statement bound to its report. -/
def boundAmountsByCity : BoundSelect :=
  Plan.boundSelect amountsByCity salesReport salesReport.columns.reverse

/-- Of three sales two are those of one city. -/
theorem rows_of_countDistinct_amountsByCity :
    Plan.bind salesCatalog amountsByCity = .ok boundAmountsByCity ∧
    boundAmountsByCity.TellsApart [["Rome", "1"], ["Oslo", "1"],
      ["Rome", "2"]] ∧
    ∃ rome oslo,
      boundAmountsByCity.aggregate [["Rome", "1"], ["Oslo", "1"],
        ["Rome", "2"]] = .ok [rome, oslo] ∧
      rome[1]? = some (Cell.ofCount 2) ∧ oslo[1]? = some (Cell.ofCount 1) := by
  have hbind : Plan.bind salesCatalog amountsByCity =
      .ok boundAmountsByCity := by decide
  have hapart : boundAmountsByCity.TellsApart [["Rome", "1"], ["Oslo", "1"],
      ["Rome", "2"]] := by
    unfold TellsApart
    decide
  refine ⟨hbind, hapart, ?_⟩
  obtain ⟨rows, hrows⟩ := (boundAmountsByCity.exists_aggregate_eq_ok_iff
    [["Rome", "1"], ["Oslo", "1"], ["Rome", "2"]]).mpr (by decide)
  have hothers : ∀ (j : Nat) (other : SelectItem),
      amountsByCity.items[j]? = some other → j ≠ 1 →
      other.distinct = false := by
    intro j other hother hne
    match j, hother, hne with
    | 0, hother, _ =>
        obtain rfl := Option.some.inj hother
        rfl
    | j + 2, hother, _ => simp [amountsByCity] at hother
  obtain ⟨column, -, -, hcounts⟩ :=
    rows_of_countDistinct hbind (i := 1) rfl rfl rfl hothers hapart hrows
  have hvalues : ([["Rome", "1"], ["Oslo", "1"], ["Rome", "2"]].map
      boundAmountsByCity.keyValues).eraseDups = [["Rome"], ["Oslo"]] := by
    decide
  rw [hvalues] at hcounts
  obtain ⟨rome, rest, hrome, hrest, rfl⟩ :=
    List.forall₂_cons_left_iff.mp hcounts
  obtain ⟨oslo, rest, hoslo, hnil, rfl⟩ := List.forall₂_cons_left_iff.mp hrest
  obtain rfl := List.forall₂_nil_left_iff.mp hnil
  exact ⟨rome, oslo, hrows, hrome, hoslo⟩

/-- The text of the rows of a statement on the records of a report of sales. -/
def salesShown (text : String) (records : List (List String)) :
    Option (List (List String)) :=
  match parseStatement text with
  | .ok (.select select) =>
    ((Plan.bind salesCatalog select).bind fun bound =>
      bound.aggregate records).toOption.map
      fun rows => rows.map (List.map Cell.render)
  | _ => none

/-- Two cities are not counted as two in one row, and a city that two records
of a group name is counted twice. -/
theorem salesShown_countDistinct :
    Hash.ofText "Rome" ≠ Hash.ofText "Oslo" ∧
    salesShown "SELECT COUNT(DISTINCT City) FROM SALES"
      [["Rome"], ["Rome"], ["Oslo"]] = some [["2"], ["1"]] ∧
    salesShown "SELECT Amount, COUNT(DISTINCT City) FROM SALES GROUP BY Amount"
      [["1", "Rome"], ["1", "Rome"]] = some [["1", "2"]] := by
  refine ⟨?_, ?_, ?_⟩
  · decide
  · decide +kernel
  · decide +kernel

end BoundSelect

end ReportQuery
