import ReportQuery.Proofs.Report.Grouping
import ReportQuery.Report.ResultSet

/-!
# Rows of a bound statement

Binding turns names into indices, and nothing looks at the names again. The
indices of a bound statement stay within the records that are read and within
the output columns, because a record with too few values is refused before a
value is taken from it. Each row then has one cell for every output column, and
the form of the cell, a whole number, a number, a date or a text, is fixed by
the type and the function of the column. So a sort only ever compares cells of
one form.
-/

namespace ReportQuery

/-- The forms of values. -/
inductive CellForm where
  | int
  | float
  | date
  | text
deriving DecidableEq, Repr

/-- The form of a value. -/
def CellValue.form : CellValue → CellForm
  | int _ => .int
  | float _ _ => .float
  | date _ _ => .date
  | text _ => .text

/-- The form of the values that are read as a kind. -/
def Kind.form : Kind → CellForm
  | int => .int
  | double => .float
  | date | dateTime => .date
  | text => .text

/-- The form of what a function makes of values of a kind. -/
def AggregateFunction.form (function : AggregateFunction) (kind : Kind) :
    CellForm :=
  match function with
  | min | max => if kind.isCalendar then .date else .float
  | avg | count | sum => .float

namespace BoundColumn

/-- The form of the cells of an output column. -/
def form (column : BoundColumn) : CellForm :=
  match column.function with
  | none => (Kind.ofTag column.kind).form
  | some function => function.form (Kind.ofTag column.kind)

end BoundColumn

namespace BoundSelect

/-- The indices of a bound statement point at what they were made for. -/
structure Indexed (bound : BoundSelect) : Prop where
  /-- No report column is downloaded twice. -/
  distinct : bound.reportColumns.Nodup
  mem_iff : ∀ name, name ∈ bound.reportColumns ↔
    name ∈ bound.columns.map BoundColumn.name
  /-- Report columns stand in the order of their first use. -/
  order : bound.reportColumns.Pairwise fun a b =>
    (bound.columns.map BoundColumn.name).idxOf a <
      (bound.columns.map BoundColumn.name).idxOf b
  source : ∀ column ∈ bound.columns, bound.reportColumns[column.index]? =
    some column.name
  groupBy : ∀ i ∈ bound.groupBy, i < bound.columns.length
  orderBy : ∀ key ∈ bound.orderBy, key.index < bound.columns.length

/-- A row with a cell of the right form for every output column. -/
def Fits (bound : BoundSelect) (row : List Cell) : Prop :=
  List.Forall₂ (fun column (cell : Cell) => cell.value.form = column.form)
    bound.columns row

end BoundSelect

/-! ## The form of a cell -/

theorem CellValue.form_unset (kind : Kind) :
    (CellValue.unset kind).form = kind.form := by
  cases kind <;> rfl

namespace Cell

theorem form_of_readDouble? {payload : String} {value : CellValue}
    (h : readDouble? payload = some value) : value.form = .float := by
  simp only [readDouble?] at h
  generalize Text.dropTrailing? ['%'] (Text.trim payload.toList) = cut at h
  cases cut with
  | none | some rest =>
      simp only at h
      split at h
      · rw [← Option.some.inj h]
        rfl
      · split at h
        · rw [← Option.some.inj h]
          rfl
        · obtain ⟨x, -, rfl⟩ := Option.map_eq_some_iff.mp h
          rfl

theorem form_of_readValue? {payload : String} {kind : Kind} {value : CellValue}
    (h : readValue? payload kind = some value) : value.form = kind.form := by
  cases kind with
  | int =>
      rw [readValue?, readInt?] at h
      obtain ⟨n, -, rfl⟩ := Option.map_eq_some_iff.mp h
      rfl
  | double => exact form_of_readDouble? h
  | date | dateTime =>
      rw [readValue?, readDate?] at h
      obtain ⟨m, -, rfl⟩ := Option.map_eq_some_iff.mp h
      rfl
  | text => rw [← Option.some.inj h]; rfl

theorem form_of_cast? {raw : String} {kind : Kind} {cell : Cell}
    (h : cast? raw kind = some cell) : cell.value.form = kind.form := by
  unfold cast? at h
  cases hraw : Raw.ofText raw with
  | unset | excluded | autoAlone =>
      rw [hraw] at h
      rw [← Option.some.inj h]
      exact CellValue.form_unset kind
  | plain payload | auto payload =>
      rw [hraw] at h
      obtain ⟨value, hvalue, rfl⟩ := Option.map_eq_some_iff.mp h
      exact form_of_readValue? hvalue

theorem form_of_cast {raw tag : String} {cell : Cell}
    (h : cast raw tag = .ok cell) :
    cell.value.form = (Kind.ofTag tag).form := by
  unfold cast at h
  split at h
  · next found hfound => exact Except.ok.inj h ▸ form_of_cast? hfound
  · simp at h

end Cell

theorem Accumulator.form_finish (function : AggregateFunction) (kind : Kind)
    (state : Accumulator) :
    (state.finish function kind).value.form = function.form kind := by
  cases function with
  | count | sum | avg => rfl
  | max | min =>
      simp only [finish, AggregateFunction.form]
      split
      · rfl
      · rfl

/-- A group that has a record has a cell of the right form in every column. -/
theorem BoundColumn.form_finish {column : BoundColumn} {record : List String}
    {tally tally' : Tally} (h : column.step record tally = .ok tally') :
    (column.finish tally').value.form = column.form := by
  unfold step at h
  unfold finish form
  cases hfunction : column.function with
  | none =>
      rw [hfunction] at h
      obtain ⟨cell, hcell, rfl⟩ := Except.map_eq_ok_iff.mp h
      exact Cell.form_of_cast hcell
  | some function => exact Accumulator.form_finish function _ _

/-! ## The form of a row -/

namespace BoundSelect

variable {bound : BoundSelect} {records : List (List String)}

theorem fits_finishRow {record : List String} {tallies tallies' : List Tally}
    (hlength : tallies.length = bound.columns.length)
    (h : bound.advance record tallies = .ok tallies') :
    bound.Fits (bound.finishRow tallies') := by
  have hany : List.Forall₂ (fun _ _ => True) bound.columns tallies :=
    List.forall₂_iff_get.mpr ⟨hlength.symm, fun _ _ _ => trivial⟩
  have hforms : List.Forall₂
      (fun column tally =>
        (BoundColumn.finish column tally).value.form = column.form)
      bound.columns tallies' :=
    forall₂_advance (fun _ _ _ _ hstep => BoundColumn.form_finish hstep) hany h
  exact List.forall₂_zipWith hforms fun _ _ hform => hform

/-- The tallies of a group are those after one of its records. -/
theorem exists_advance_of_mem_fold {groups : List (List Tally)}
    (h : bound.fold records = .ok groups) {tallies : List Tally}
    (hmem : tallies ∈ groups) :
    ∃ record earlier, earlier.length = bound.columns.length ∧
      bound.advance record earlier = .ok tallies := by
  unfold fold at h
  split at h
  · obtain ⟨record, -, hadvance⟩ :=
      List.exists_left_of_forall₂ (Except.mapM_eq_ok_iff.mp h) hmem
    exact ⟨record, bound.emptyTallies, bound.length_emptyTallies, hadvance⟩
  · obtain ⟨all, hall, rfl⟩ := Except.map_eq_ok_iff.mp h
    obtain ⟨group, hgroup, rfl⟩ := List.mem_map.mp hmem
    have hgrouped := (bound.foldlM_addRecord_spec records).2 all hall
    have htally := hgrouped.tallies group hgroup
    obtain ⟨init, last, hlast⟩ :=
      (List.eq_nil_or_concat' _).resolve_left
        (recordsOf_ne_nil (hgrouped.key_mem hgroup))
    rw [hlast, tally_append_singleton] at htally
    obtain ⟨earlier, hearlier, hadvance⟩ := Except.bind_eq_ok_iff.mp htally
    exact ⟨last, earlier, (bound.tally_spec init).2 earlier hearlier, hadvance⟩

theorem fits_of_aggregate {rows : List (List Cell)}
    (h : bound.aggregate records = .ok rows) :
    ∀ row ∈ rows, bound.Fits row := by
  obtain ⟨groups, hgroups, rfl⟩ := Except.map_eq_ok_iff.mp h
  intro row hrow
  obtain ⟨tallies, hmem, rfl⟩ := List.mem_map.mp hrow
  obtain ⟨record, earlier, hlength, hadvance⟩ :=
    exists_advance_of_mem_fold hgroups hmem
  exact fits_finishRow hlength hadvance

/-- Two rows have cells of one form in a column. -/
theorem Fits.exists_same_form {a b : List Cell} (ha : bound.Fits a)
    (hb : bound.Fits b) {i : Nat} (hi : i < bound.columns.length) :
    ∃ x y, a[i]? = some x ∧ b[i]? = some y ∧ x.value.form = y.value.form := by
  have hia : i < a.length := ha.length_eq ▸ hi
  have hib : i < b.length := hb.length_eq ▸ hi
  refine ⟨a[i], b[i], List.getElem?_eq_getElem hia,
    List.getElem?_eq_getElem hib, ?_⟩
  exact (ha.get hi hia).trans (hb.get hi hib).symm

end BoundSelect

/-! ## Bound statements -/

/-- The output columns of a bound statement have the names of their report
columns. -/
theorem Plan.names_boundSelect {select : Select} {table : Table}
    {columns : List TableColumn}
    (hlength : select.items.length = columns.length) :
    (boundSelect select table columns).columns.map BoundColumn.name =
      columns.map TableColumn.name := by
  calc (boundSelect select table columns).columns.map BoundColumn.name
      = List.zipWith (fun _ column => column.name) select.items columns :=
        List.map_zipWith
    _ = (select.items.zip columns).map fun entry => entry.2.name :=
        List.map_uncurry_zip_eq_zipWith.symm
    _ = ((select.items.zip columns).map Prod.snd).map TableColumn.name := by
        rw [List.map_map]
        rfl
    _ = columns.map TableColumn.name := by
        rw [List.map_snd_zip (Nat.le_of_eq hlength.symm)]

namespace BoundSelect

variable {bound : BoundSelect} {catalog : Catalog} {select : Select}

theorem indexed_of_bind
    (hgroup : ∀ p ∈ select.groupBy, 1 ≤ p.position ∧
      p.position ≤ select.items.length)
    (horder : ∀ entry ∈ select.orderBy, 1 ≤ entry.target.position ∧
      entry.target.position ≤ select.items.length)
    (h : Plan.bind catalog select = .ok bound) : bound.Indexed := by
  obtain ⟨table, columns, -, hcolumns, -, rfl⟩ := Plan.bind_eq_ok_iff.mp h
  have hlength := hcolumns.length_eq
  have hnames : (Plan.boundSelect select table columns).columns.map
      BoundColumn.name =
      columns.map TableColumn.name := Plan.names_boundSelect hlength
  have hcount : (Plan.boundSelect select table columns).columns.length =
      select.items.length := by
    simp [Plan.boundSelect, hlength]
  have hreport : (Plan.boundSelect select table columns).reportColumns =
      ((Plan.boundSelect select table columns).columns.map
        BoundColumn.name).eraseDups := by
    rw [hnames]
    rfl
  constructor
  case distinct =>
    rw [hreport]
    exact List.nodup_eraseDups _
  case mem_iff =>
    intro name
    rw [hreport, List.mem_eraseDups]
  case order =>
    rw [hreport]
    exact List.pairwise_idxOf_eraseDups _
  case source =>
    intro column hcolumn
    obtain ⟨item, tableColumn, rfl⟩ : ∃ item tableColumn,
        Plan.bindItem (columns.map TableColumn.name).eraseDups item
          tableColumn = column := by
      obtain ⟨i, hi, rfl⟩ := List.mem_iff_getElem.mp hcolumn
      exact ⟨_, _, (List.getElem_zipWith ..).symm⟩
    apply List.getElem?_idxOf
    rw [hreport, List.mem_eraseDups]
    exact List.mem_map_of_mem hcolumn
  case groupBy =>
    intro i hi
    obtain ⟨p, hp, rfl⟩ := List.mem_map.mp hi
    have hposition := hgroup p hp
    omega
  case orderBy =>
    intro key hkey
    obtain ⟨entry, hentry, rfl⟩ := List.mem_map.mp hkey
    have hposition := horder entry hentry
    change entry.target.position - 1 < _
    omega

theorem Indexed.index_lt (h : bound.Indexed) {column : BoundColumn}
    (hcolumn : column ∈ bound.columns) :
    column.index < bound.reportColumns.length :=
  (List.getElem?_eq_some_iff.mp (h.source column hcolumn)).1

/-- The columns that tell groups apart are output columns. -/
theorem mem_columns_of_mem_keyColumns {column : BoundColumn}
    (h : column ∈ bound.keyColumns) : column ∈ bound.columns := by
  unfold keyColumns at h
  split at h
  · exact List.mem_of_mem_filter h
  · obtain ⟨i, -, hcolumn⟩ := List.mem_filterMap.mp h
    exact List.mem_of_getElem? hcolumn

/-- A statement whose positions are those of its entries is bound to indices
within its records and its output columns. A record with too few values for it
is refused, and from any other record every output column and every grouped one
takes a value that is there. The rows of a report that is not refused have one
cell for every output column, of the form of the column, so that two rows have
cells of one form under every key of the sort. -/
theorem indexed_and_fits_of_bind
    (hgroup : ∀ p ∈ select.groupBy, 1 ≤ p.position ∧
      p.position ≤ select.items.length)
    (horder : ∀ entry ∈ select.orderBy, 1 ≤ entry.target.position ∧
      entry.target.position ≤ select.items.length)
    (hbind : Plan.bind catalog select = .ok bound)
    (records : List (List String)) :
    bound.Indexed ∧
    (∀ record : List String,
      if record.length < bound.reportColumns.length then
        bound.fault? record =
          some (.malformedRow bound.reportColumns.length record.length)
      else ∀ column ∈ bound.columns ++ bound.keyColumns,
        record[column.index]? = some (column.raw record)) ∧
    ((∃ e, bound.aggregate records = .error e) ∨
      ∃ rows, bound.aggregate records = .ok rows ∧
        (∀ record ∈ records, bound.reportColumns.length ≤ record.length) ∧
        (∀ row ∈ rows, row.length = bound.columns.length ∧ bound.Fits row) ∧
        ∀ a ∈ rows, ∀ b ∈ rows, ∀ key ∈ bound.orderBy,
          ∃ x y, a[key.index]? = some x ∧ b[key.index]? = some y ∧
            x.value.form = y.value.form) := by
  have hindexed := indexed_of_bind hgroup horder hbind
  refine ⟨hindexed, ?_, ?_⟩
  · intro record
    split
    · next hshort => rw [fault?, if_pos hshort]
    · next hlong =>
        intro column hcolumn
        have hmem : column ∈ bound.columns :=
          (List.mem_append.mp hcolumn).elim id mem_columns_of_mem_keyColumns
        have hindex := Nat.lt_of_lt_of_le (hindexed.index_lt hmem)
          (Nat.le_of_not_lt hlong)
        rw [BoundColumn.raw, List.getElem?_eq_getElem hindex]
        rfl
  · cases haggregate : bound.aggregate records with
    | error e => exact .inl ⟨e, rfl⟩
    | ok rows =>
        have hfits := fits_of_aggregate haggregate
        have hrow (row : List Cell) (hrow : row ∈ rows) :
            row.length = bound.columns.length ∧ bound.Fits row :=
          ⟨(hfits row hrow).length_eq.symm, hfits row hrow⟩
        refine .inr ⟨rows, rfl, ?_, hrow, ?_⟩
        · intro record hrecord
          have hclean := (bound.exists_aggregate_eq_ok_iff records).mp
            ⟨rows, haggregate⟩
          by_contra hshort
          have hfault := hclean record hrecord
          rw [fault?, if_pos (Nat.lt_of_not_le hshort)] at hfault
          simp at hfault
        · intro a ha b hb key hkey
          exact (hfits a ha).exists_same_form (hfits b hb)
            (hindexed.orderBy key hkey)

/-- A report of visits. -/
def visitCatalog : Catalog where
  version := "v1"
  tables := [
    { name := "VISITS"
      aggregateColumn := "City"
      columns := [{ name := "Day", kind := "DATE" }, { name := "City" }] }]

/-- `SELECT City, MAX(Day), COUNT(City) FROM VISITS GROUP BY 1 ORDER BY 2
DESC` -/
def lastVisits : Select where
  items := [{ column := { name := "City" } },
    { column := { name := "Day" }, function := some .max },
    { column := { name := "City" }, function := some .count }]
  source := "VISITS"
  groupBy := [⟨{ name := "City" }, 1⟩]
  orderBy := [⟨⟨{ name := "Day" }, 2⟩, true⟩]

/-- The statement bound to its report. -/
def boundLastVisits : BoundSelect :=
  let city := visitCatalog.tables[0].columns[1]
  Plan.boundSelect lastVisits visitCatalog.tables[0] [city,
    visitCatalog.tables[0].columns[0], city]

/-- The last day of the visits to two cities, one of them without a day: every
row has a text, a day and a number, and a record of one value is refused. -/
theorem fits_lastVisits :
    Plan.bind visitCatalog lastVisits = .ok boundLastVisits ∧
    boundLastVisits.Indexed ∧ boundLastVisits.reportColumns = ["City", "Day"] ∧
    (∃ rows, boundLastVisits.aggregate [["Rome", "2017-09-13"],
      ["Oslo", " --"]] = .ok rows ∧
      ∀ row ∈ rows, row.map (fun cell => cell.value.form) =
        [.text, .date, .float]) ∧
    boundLastVisits.fault? ["Rome"] = some (.malformedRow 2 1) := by
  have hbind : Plan.bind visitCatalog lastVisits = .ok boundLastVisits := by
    decide
  have hgroup : ∀ p ∈ lastVisits.groupBy,
      1 ≤ p.position ∧ p.position ≤ lastVisits.items.length := by
    decide
  have horder : ∀ entry ∈ lastVisits.orderBy,
      1 ≤ entry.target.position ∧
      entry.target.position ≤ lastVisits.items.length := by
    decide
  obtain ⟨hindexed, hrecords, herror | ⟨rows, hrows, -, hfits, -⟩⟩ :=
    indexed_and_fits_of_bind hgroup horder hbind [["Rome", "2017-09-13"],
      ["Oslo", " --"]]
  · obtain ⟨e, he⟩ := herror
    have hclean : [["Rome", "2017-09-13"], ["Oslo", " --"]].findSome?
        boundLastVisits.fault? = none := by
      decide
    rw [aggregate_eq_error_iff, hclean] at he
    simp at he
  · refine ⟨hbind, hindexed, by decide, ⟨rows, hrows, ?_⟩, hrecords ["Rome"]⟩
    intro row hrow
    have hforms : boundLastVisits.columns.map BoundColumn.form =
        [.text, .date, .float] := by
      decide
    rw [← hforms, ← List.forall₂_eq_eq_eq, List.forall₂_map_left_iff,
      List.forall₂_map_right_iff]
    exact (hfits row hrow).2.flip

end BoundSelect

end ReportQuery
