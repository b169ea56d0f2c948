import ReportQuery.Report.Aggregate
import ReportQuery.Proofs.Lists
import ReportQuery.Proofs.Plan.Bind

/-!
# Groups of records

The records of a report are folded in one pass, into one list of groups. Seen
from a single group, only the records with its key were there: its row is the
one that these records give alone. Groups stand in the order of their first
records. The pass fails at the first record with a fault, which depends on the
record and on the output columns, not on what was read before.
-/

namespace ReportQuery

/-- Whether a column takes the value of a record. A column without function
reads it as its kind, COUNT takes every value, and the other functions take
what is unset or a number. -/
def BoundColumn.accepts (column : BoundColumn) (record : List String) : Bool :=
  let cell? := Cell.cast? (column.raw record) (Kind.ofTag column.kind)
  match column.function with
  | none => cell?.isSome
  | some .count => true
  | some _ => cell?.any fun cell => cell.isUnset || cell.toFloat?.isSome

/-- The fault of a value that a column does not take. -/
def BoundColumn.fault? (column : BoundColumn) (record : List String) :
    Option QueryError :=
  if column.accepts record then none
  else some (.cast (column.raw record) column.kind)

namespace BoundSelect

/-- The fault of a record: too few values, or the first value that its column
does not take. -/
def fault? (bound : BoundSelect) (record : List String) : Option QueryError :=
  if record.length < bound.reportColumns.length then
    some (.malformedRow bound.reportColumns.length record.length)
  else bound.columns.findSome? (·.fault? record)

/-- The records of a group. -/
def recordsOf (bound : BoundSelect) (key : GroupKey)
    (records : List (List String)) :
    List (List String) :=
  records.filter (bound.groupKey · == key)

/-- The keys of records, in the order of their first records. -/
def keysOf (bound : BoundSelect) (records : List (List String)) :
    List GroupKey :=
  (records.map bound.groupKey).eraseDups

/-- The tallies of records that are all in one group. -/
def tally (bound : BoundSelect) (records : List (List String)) :
    Except QueryError (List Tally) :=
  records.foldlM (fun tallies record => bound.advance record tallies)
    bound.emptyTallies

/-- The groups of the records that were read: each has the tallies of its own
records. -/
structure Grouped (bound : BoundSelect) (seen : List (List String))
    (groups : List Group) : Prop where
  keys : groups.map Group.key = bound.keysOf seen
  tallies : ∀ group ∈ groups, bound.tally (bound.recordsOf group.key seen) =
    .ok group.tallies

end BoundSelect

/-! ## One record -/

theorem Cell.cast_eq_error_iff {raw tag : String} {e : QueryError} :
    Cell.cast raw tag = .error e ↔
      Cell.cast? raw (Kind.ofTag tag) = none ∧ QueryError.cast raw tag = e := by
  unfold Cell.cast
  cases Cell.cast? raw (Kind.ofTag tag) <;> simp

theorem numericInput_eq_error_iff {raw tag : String} {e : QueryError} :
    numericInput raw tag = .error e ↔
      (Cell.cast? raw (Kind.ofTag tag)).any
        (fun cell => cell.isUnset || cell.toFloat?.isSome) =
        false ∧ QueryError.cast raw tag = e := by
  unfold numericInput Cell.cast
  cases Cell.cast? raw (Kind.ofTag tag) with
  | none => simp
  | some cell =>
      change (if cell.isUnset = true then Except.ok none else _) = _ ↔ _
      cases hunset : cell.isUnset <;> cases hfloat : cell.toFloat? <;>
        simp [hunset, hfloat]

variable {bound : BoundSelect} {record : List String}
  {records : List (List String)}

theorem BoundColumn.step_eq_error_iff (column : BoundColumn) (tally : Tally)
    {e : QueryError} :
    column.step record tally = .error e ↔ column.fault? record = some e := by
  have hfault : column.fault? record = some e ↔
      column.accepts record = false ∧
      QueryError.cast (column.raw record) column.kind = e := by
    unfold BoundColumn.fault?
    cases column.accepts record <;> simp
  rw [hfault]
  unfold BoundColumn.step BoundColumn.accepts
  cases column.function with
  | none => simp [Except.map_eq_error_iff, Cell.cast_eq_error_iff]
  | some function =>
      cases function with
      | count => simp
      | _ =>
          rw [Except.map_eq_error_iff]
          exact numericInput_eq_error_iff

namespace BoundSelect

theorem length_emptyTallies (bound : BoundSelect) :
    bound.emptyTallies.length = bound.columns.length :=
  List.length_map _

theorem advance_eq_error_iff {tallies : List Tally}
    (hlength : tallies.length = bound.columns.length) {e : QueryError} :
    bound.advance record tallies = .error e ↔ bound.fault? record = some e := by
  have hsteps : (bound.columns.zip tallies).mapM
        (fun entry => entry.1.step record entry.2) = .error e ↔
      (bound.columns.zip tallies).findSome?
        (fun entry => entry.1.fault? record) = some e :=
    Except.mapM_eq_error_iff fun entry _ _ => entry.1.step_eq_error_iff entry.2
  have hcolumns : (bound.columns.zip tallies).findSome?
      (fun entry => entry.1.fault? record) =
      bound.columns.findSome? (·.fault? record) := by
    have hfst : (bound.columns.zip tallies).map Prod.fst = bound.columns :=
      List.map_fst_zip (Nat.le_of_eq hlength.symm)
    conv_rhs => rw [← hfst, List.findSome?_map]
    rfl
  unfold advance fault?
  split
  · simp
  · rw [← hcolumns]
    exact hsteps

theorem length_of_advance {tallies tallies' : List Tally}
    (hlength : tallies.length = bound.columns.length)
    (h : bound.advance record tallies = .ok tallies') :
    tallies'.length = bound.columns.length := by
  unfold advance at h
  split at h
  · simp at h
  · have hzip := (Except.mapM_eq_ok_iff.mp h).length_eq
    rw [← hzip, List.length_zip, hlength, Nat.min_self]

/-- What every column keeps when it takes the value of a record, the columns of
a group keep. -/
theorem forall₂_advance {Before After : BoundColumn → Tally → Prop}
    {tallies tallies' : List Tally}
    (hstep : ∀ column tally tally', Before column tally →
      column.step record tally = .ok tally' → After column tally')
    (h : List.Forall₂ Before bound.columns tallies)
    (hadvance : bound.advance record tallies = .ok tallies') :
    List.Forall₂ After bound.columns tallies' := by
  unfold advance at hadvance
  split at hadvance
  · simp at hadvance
  · have hsteps := Except.mapM_eq_ok_iff.mp hadvance
    clear hadvance
    generalize bound.columns = columns at h hsteps
    induction h generalizing tallies' with
    | nil =>
        obtain rfl := List.forall₂_nil_left_iff.mp hsteps
        exact .nil
    | cons hbefore _ ih =>
        obtain ⟨tally', rest', htally, hrest, rfl⟩ :=
          List.forall₂_cons_left_iff.mp hsteps
        exact .cons (hstep _ _ _ hbefore htally) (ih hrest)

/-! ## One group -/

theorem tally_append_singleton (seen : List (List String))
    (record : List String) :
    bound.tally (seen ++ [record]) =
      (bound.tally seen).bind fun tallies => bound.advance record tallies := by
  unfold tally
  simp only [List.foldlM_append, List.foldlM_cons, List.foldlM_nil, bind_pure]
  rfl

theorem tally_spec (bound : BoundSelect) (records : List (List String)) :
    (∀ e, bound.tally records = .error e ↔
      records.findSome? bound.fault? = some e) ∧
      ∀ tallies, bound.tally records = .ok tallies →
        tallies.length = bound.columns.length := by
  unfold tally
  refine Except.foldlM_spec
    (fun _ (tallies : List Tally) => tallies.length = bound.columns.length) ?_
      ?_ ?_ records
  · exact bound.length_emptyTallies
  · intro _ tallies record hlength e
    exact advance_eq_error_iff hlength
  · intro _ tallies record tallies' hlength h
    exact length_of_advance hlength h

theorem findSome?_fault?_eq_none {tallies : List Tally}
    (h : bound.tally records = .ok tallies) :
    records.findSome? bound.fault? = none := by
  rw [Option.eq_none_iff_forall_ne_some]
  intro e he
  simp [((bound.tally_spec records).1 e).mpr he] at h

/-! ## All groups -/

theorem addRecord_of_fresh {groups : List Group}
    (h : ∀ group ∈ groups, group.key ≠ bound.groupKey record) :
    bound.addRecord record groups =
      (bound.advance record bound.emptyTallies).map fun tallies =>
        groups ++ [⟨bound.groupKey record, tallies⟩] := by
  induction groups with
  | nil => rfl
  | cons group rest ih =>
      have hrest := ih fun other hother =>
        h other (List.mem_cons_of_mem group hother)
      rw [addRecord, if_neg (h group List.mem_cons_self), hrest]
      cases bound.advance record bound.emptyTallies <;> rfl

theorem addRecord_of_present {before after : List Group} {group : Group}
    (h : ∀ other ∈ before, other.key ≠ bound.groupKey record)
    (hgroup : group.key = bound.groupKey record) :
    bound.addRecord record (before ++ group :: after) =
      (bound.advance record group.tallies).map fun tallies =>
        before ++ ⟨group.key, tallies⟩ :: after := by
  induction before with
  | nil => rw [List.nil_append, addRecord, if_pos hgroup]; rfl
  | cons other rest ih =>
      have hrest := ih fun third hthird =>
        h third (List.mem_cons_of_mem other hthird)
      rw [List.cons_append, addRecord,
        if_neg (h other List.mem_cons_self), hrest]
      cases bound.advance record group.tallies <;> rfl

variable {seen : List (List String)} {groups : List Group}

theorem recordsOf_append_same (bound : BoundSelect) (seen : List (List String))
    (record : List String) :
    bound.recordsOf (bound.groupKey record) (seen ++ [record]) =
      bound.recordsOf (bound.groupKey record) seen ++ [record] := by
  simp [recordsOf]

theorem recordsOf_append_other {key : GroupKey}
    (h : key ≠ bound.groupKey record) :
    bound.recordsOf key (seen ++ [record]) = bound.recordsOf key seen := by
  simp [recordsOf, h.symm]

theorem Grouped.key_mem (h : bound.Grouped seen groups) {group : Group}
    (hgroup : group ∈ groups) : group.key ∈ bound.keysOf seen := by
  rw [← h.keys]
  exact List.mem_map_of_mem hgroup

/-- Groups have different keys. -/
theorem Grouped.ne_of_split {before after : List Group} {group : Group}
    (h : bound.Grouped seen (before ++ group :: after)) :
    (∀ other ∈ before, other.key ≠ group.key) ∧
      ∀ other ∈ after, other.key ≠ group.key := by
  have hnodup : ((before ++ group :: after).map Group.key).Nodup := by
    rw [h.keys]
    exact List.nodup_eraseDups _
  rw [List.map_append, List.map_cons, List.nodup_append] at hnodup
  obtain ⟨-, htail, hapart⟩ := hnodup
  constructor
  · intro other hother
    exact hapart _ (List.mem_map_of_mem hother) _ List.mem_cons_self
  · intro other hother heq
    exact (List.nodup_cons.mp htail).1 (heq ▸ List.mem_map_of_mem hother)

/-- A record taken into the group with its key. -/
theorem Grouped.replace {before after : List Group} {group : Group}
    {tallies : List Tally} (h : bound.Grouped seen (before ++ group :: after))
    (hkey : group.key = bound.groupKey record)
    (hadvance : bound.advance record group.tallies = .ok tallies) :
    bound.Grouped (seen ++ [record])
      (before ++ ⟨group.key, tallies⟩ :: after) := by
  obtain ⟨hbefore, hafter⟩ := h.ne_of_split
  rw [hkey] at hbefore hafter
  have hmem : bound.groupKey record ∈ seen.map bound.groupKey := by
    have hgroup := h.key_mem (List.mem_append_right before List.mem_cons_self)
    exact hkey ▸ List.mem_eraseDups.mp hgroup
  constructor
  · rw [keysOf, List.map_append (f := bound.groupKey), List.map_singleton,
      List.eraseDups_append_of_mem hmem]
    simpa [keysOf] using h.keys
  · intro other hother
    rcases List.mem_append.mp hother with hold | hnew
    · rw [recordsOf_append_other (hbefore other hold)]
      exact h.tallies other (List.mem_append_left _ hold)
    · rcases List.mem_cons.mp hnew with rfl | hold
      · have htally :=
          h.tallies group (List.mem_append_right _ List.mem_cons_self)
        change bound.tally (bound.recordsOf group.key (seen ++ [record])) =
          .ok tallies
        rw [hkey] at htally ⊢
        rw [recordsOf_append_same, tally_append_singleton, htally]
        exact hadvance
      · rw [recordsOf_append_other (hafter other hold)]
        exact h.tallies other (List.mem_append_right _
          (List.mem_cons_of_mem group hold))

/-- A record with a new key. -/
theorem Grouped.append {tallies : List Tally} (h : bound.Grouped seen groups)
    (hfresh : bound.groupKey record ∉ seen.map bound.groupKey)
    (hadvance : bound.advance record bound.emptyTallies = .ok tallies) :
    bound.Grouped (seen ++ [record])
      (groups ++ [⟨bound.groupKey record, tallies⟩]) := by
  constructor
  · rw [keysOf, List.map_append, List.map_append, List.map_singleton,
      List.map_singleton, List.eraseDups_append_of_not_mem hfresh, h.keys]
    rfl
  · intro group hgroup
    rcases List.mem_append.mp hgroup with hold | hnew
    · have hne : group.key ≠ bound.groupKey record := by
        intro heq
        have hkey := List.mem_map_of_mem (f := Group.key) hold
        rw [h.keys, heq] at hkey
        exact hfresh (List.mem_eraseDups.mp hkey)
      rw [recordsOf_append_other hne]
      exact h.tallies group hold
    · obtain rfl := List.mem_singleton.mp hnew
      have hnone : bound.recordsOf (bound.groupKey record) seen = [] := by
        rw [recordsOf, List.filter_eq_nil_iff]
        intro other hother heq
        exact hfresh (beq_iff_eq.mp heq ▸ List.mem_map_of_mem hother)
      rw [recordsOf_append_same, hnone, tally_append_singleton]
      exact hadvance

/-- What adding a record does to the groups of the records before it. -/
theorem Grouped.addRecord_spec (h : bound.Grouped seen groups)
    (record : List String) :
    (∀ e, bound.addRecord record groups = .error e ↔
      bound.fault? record = some e) ∧
      ∀ groups', bound.addRecord record groups = .ok groups' →
        bound.Grouped (seen ++ [record]) groups' := by
  by_cases hmem : bound.groupKey record ∈ groups.map Group.key
  · obtain ⟨group, hgroup, hkey⟩ := List.mem_map.mp hmem
    obtain ⟨before, after, rfl⟩ := List.append_of_mem hgroup
    have hlength := (bound.tally_spec _).2 _ (h.tallies group hgroup)
    have hbefore := h.ne_of_split.1
    rw [hkey] at hbefore
    rw [addRecord_of_present hbefore hkey]
    constructor
    · intro e
      rw [Except.map_eq_error_iff, advance_eq_error_iff hlength]
    · intro groups' hgroups'
      obtain ⟨tallies, hadvance, rfl⟩ := Except.map_eq_ok_iff.mp hgroups'
      exact h.replace hkey hadvance
  · have hfresh : ∀ group ∈ groups, group.key ≠ bound.groupKey record := by
      intro group hgroup heq
      exact hmem (heq ▸ List.mem_map_of_mem hgroup)
    rw [addRecord_of_fresh hfresh]
    constructor
    · intro e
      rw [Except.map_eq_error_iff,
        advance_eq_error_iff bound.length_emptyTallies]
    · intro groups' hgroups'
      obtain ⟨tallies, hadvance, rfl⟩ := Except.map_eq_ok_iff.mp hgroups'
      rw [h.keys, keysOf, List.mem_eraseDups] at hmem
      exact h.append hmem hadvance

/-- The groups of a whole report. -/
theorem foldlM_addRecord_spec (bound : BoundSelect)
    (records : List (List String)) :
    (∀ e, records.foldlM (fun groups record => bound.addRecord record groups)
      [] = .error e ↔ records.findSome? bound.fault? = some e) ∧
      ∀ groups, records.foldlM
        (fun groups record => bound.addRecord record groups) [] =
        .ok groups → bound.Grouped records groups := by
  refine Except.foldlM_spec bound.Grouped ⟨rfl, by simp⟩ ?_ ?_ records
  · intro seen groups record h
    exact (h.addRecord_spec record).1
  · intro seen groups record groups' h
    exact (h.addRecord_spec record).2 groups'

/-! ## The rows -/

theorem fold_eq_error_iff (bound : BoundSelect) (records : List (List String))
    (e : QueryError) :
    bound.fold records = .error e ↔
      records.findSome? bound.fault? = some e := by
  unfold fold
  split
  · exact Except.mapM_eq_error_iff fun record _ _ =>
      advance_eq_error_iff bound.length_emptyTallies
  · rw [Except.map_eq_error_iff]
    exact (bound.foldlM_addRecord_spec records).1 e

theorem aggregate_eq_error_iff (bound : BoundSelect)
    (records : List (List String)) (e : QueryError) :
    bound.aggregate records = .error e ↔
      records.findSome? bound.fault? = some e := by
  unfold aggregate
  rw [Except.map_eq_error_iff, fold_eq_error_iff]

theorem exists_aggregate_eq_ok_iff (bound : BoundSelect)
    (records : List (List String)) :
    (∃ rows, bound.aggregate records = .ok rows) ↔
      ∀ record ∈ records, bound.fault? record = none := by
  rw [← List.findSome?_eq_none_iff]
  cases haggregate : bound.aggregate records with
  | error e => simp [(bound.aggregate_eq_error_iff records e).mp haggregate]
  | ok rows =>
      have hnone : records.findSome? bound.fault? = none := by
        rw [Option.eq_none_iff_forall_ne_some]
        intro e he
        rw [(bound.aggregate_eq_error_iff records e).mpr he] at haggregate
        simp at haggregate
      simp [hnone]

/-- A function makes rows of groups. -/
theorem keepsRecords_of_function {column : BoundColumn}
    (hcolumn : column ∈ bound.columns)
    (hfunction : column.function.isSome = true) :
    bound.keepsRecords = false := by
  have hcollapses : bound.collapses = true :=
    List.any_eq_true.mpr ⟨column, hcolumn, by simp [hfunction]⟩
  simp [keepsRecords, hcollapses]

/-- Where every record is a row of its own, it is the row that the record gives
alone. -/
theorem aggregate_of_keepsRecords (hkeeps : bound.keepsRecords = true)
    {rows : List (List Cell)} (h : bound.aggregate records = .ok rows) :
    List.Forall₂ (fun record row => bound.aggregate [record] = .ok [row])
      records rows := by
  obtain ⟨groups, hfold, rfl⟩ := Except.map_eq_ok_iff.mp h
  rw [fold, if_pos hkeeps] at hfold
  rw [List.forall₂_map_right_iff]
  refine (Except.mapM_eq_ok_iff.mp hfold).imp ?_
  intro record tallies hadvance
  have hone : bound.fold [record] = .ok [tallies] := by
    rw [fold, if_pos hkeeps]
    exact Except.mapM_eq_ok_iff.mpr (.cons hadvance .nil)
  rw [aggregate, hone]
  rfl

/-- The rows of groups, each with the records of its key. -/
theorem exists_grouped_of_aggregate (hkeeps : bound.keepsRecords = false)
    {rows : List (List Cell)} (h : bound.aggregate records = .ok rows) :
    ∃ groups, bound.Grouped records groups ∧
      groups.map (fun group => bound.finishRow group.tallies) = rows := by
  obtain ⟨_, hfold, rfl⟩ := Except.map_eq_ok_iff.mp h
  rw [fold, if_neg (by simp [hkeeps])] at hfold
  obtain ⟨groups, hgroups, rfl⟩ := Except.map_eq_ok_iff.mp hfold
  exact ⟨groups, (bound.foldlM_addRecord_spec records).2 groups
    hgroups, by simp⟩

/-- What holds of every key with the row that its tallies give holds of all
keys and rows. -/
theorem forall₂_rows_of_tallies (hkeeps : bound.keepsRecords = false)
    {rows : List (List Cell)} (h : bound.aggregate records = .ok rows)
    {R : GroupKey → List Cell → Prop}
    (hR : ∀ key ∈ bound.keysOf records, ∀ tallies,
      bound.tally (bound.recordsOf key records) = .ok tallies →
        R key (bound.finishRow tallies)) :
    List.Forall₂ R (bound.keysOf records) rows := by
  obtain ⟨groups, hgrouped, rfl⟩ := exists_grouped_of_aggregate hkeeps h
  rw [← hgrouped.keys, List.forall₂_map_left_iff, List.forall₂_map_right_iff,
    List.forall₂_same]
  intro group hgroup
  exact hR group.key (hgrouped.key_mem hgroup) group.tallies
    (hgrouped.tallies group hgroup)

theorem mem_keysOf {key : GroupKey} :
    key ∈ bound.keysOf records ↔
      ∃ record ∈ records, bound.groupKey record = key := by
  rw [keysOf, List.mem_eraseDups, List.mem_map]

theorem mem_recordsOf {key : GroupKey} :
    record ∈ bound.recordsOf key records ↔
      record ∈ records ∧ bound.groupKey record = key := by
  simp [recordsOf]

/-- A key comes from a record, so that it has records of its own. -/
theorem recordsOf_ne_nil {key : GroupKey} (h : key ∈ bound.keysOf records) :
    bound.recordsOf key records ≠ [] := by
  obtain ⟨record, hrecord, hkey⟩ := mem_keysOf.mp h
  exact List.ne_nil_of_mem (mem_recordsOf.mpr ⟨hrecord, hkey⟩)

theorem recordsOf_recordsOf (bound : BoundSelect) (key : GroupKey)
    (records : List (List String)) :
    bound.recordsOf key (bound.recordsOf key records) =
      bound.recordsOf key records := by
  simp [recordsOf]

theorem keysOf_recordsOf {key : GroupKey} (h : key ∈ bound.keysOf records) :
    bound.keysOf (bound.recordsOf key records) = [key] := by
  obtain ⟨record, hrecord, hkey⟩ := mem_keysOf.mp h
  have hall : ∀ other ∈ bound.recordsOf key records, bound.groupKey other =
      key :=
    fun other hother => (mem_recordsOf.mp hother).2
  cases hrecords : bound.recordsOf key records with
  | nil => simpa [hrecords] using mem_recordsOf.mpr ⟨hrecord, hkey⟩
  | cons first rest =>
      rw [hrecords] at hall
      have hnone : (rest.map bound.groupKey).filter
          (fun other => !other == key) = [] := by
        simp only [List.filter_eq_nil_iff, List.mem_map]
        rintro _ ⟨other, hother, rfl⟩
        simp [hall other (List.mem_cons_of_mem first hother)]
      rw [keysOf, List.map_cons, hall first List.mem_cons_self,
        List.eraseDups_cons, hnone]
      rfl

/-- The records of one group give one row, made of their tallies. -/
theorem aggregate_recordsOf (hkeeps : bound.keepsRecords = false)
    {key : GroupKey} (hkey : key ∈ bound.keysOf records) {tallies : List Tally}
    (htally : bound.tally (bound.recordsOf key records) = .ok tallies) :
    bound.aggregate (bound.recordsOf key records) =
      .ok [bound.finishRow tallies] := by
  have hnone := List.findSome?_eq_none_iff.mp (findSome?_fault?_eq_none htally)
  obtain ⟨rows, hrows⟩ := (bound.exists_aggregate_eq_ok_iff _).mpr hnone
  obtain ⟨groups, hgrouped, rfl⟩ := exists_grouped_of_aggregate hkeeps hrows
  obtain ⟨group, rfl, hgroup⟩ := List.map_eq_singleton_iff.mp
    (hgrouped.keys.trans (keysOf_recordsOf hkey))
  have hsame := hgrouped.tallies group List.mem_cons_self
  rw [hgroup, recordsOf_recordsOf, htally] at hsame
  rw [hrows, Except.ok.inj hsame]
  rfl

/-- The row of a group is the one that its records give alone. -/
theorem aggregate_groups (hkeeps : bound.keepsRecords = false)
    {rows : List (List Cell)} (h : bound.aggregate records = .ok rows) :
    List.Forall₂ (fun key row => bound.aggregate (bound.recordsOf key records) =
      .ok [row])
      (bound.keysOf records) rows :=
  forall₂_rows_of_tallies hkeeps h fun _ hkey _ htally =>
    aggregate_recordsOf hkeeps hkey htally

/-- A key stands beside a row when it is the key of a record and its records
give the row. -/
theorem mem_zip_keysOf_iff (hkeeps : bound.keepsRecords = false)
    {rows : List (List Cell)} (h : bound.aggregate records = .ok rows)
    {key : GroupKey} {row : List Cell} :
    (key, row) ∈ (bound.keysOf records).zip rows ↔
      key ∈ bound.keysOf records ∧
        bound.aggregate (bound.recordsOf key records) = .ok [row] := by
  have hrows := aggregate_groups hkeeps h
  constructor
  · intro hmem
    exact ⟨(List.of_mem_zip hmem).1, (List.forall₂_iff_zip.mp hrows).2 hmem⟩
  · rintro ⟨hkey, hrow⟩
    obtain ⟨row', hmem, hrow'⟩ := List.exists_mem_zip_of_forall₂ hrows hkey
    rw [hrow] at hrow'
    obtain rfl := (List.cons.inj (Except.ok.inj hrow')).1
    exact hmem

/-- Records in another order, but in the same order within each group, give
every group the same row. -/
theorem aggregate_of_recordsOf_eq (hkeeps : bound.keepsRecords = false)
    {records' : List (List String)}
    (hsame : ∀ key, bound.recordsOf key records' = bound.recordsOf key records)
    {rows : List (List Cell)} (h : bound.aggregate records = .ok rows) :
    ∃ rows', bound.aggregate records' = .ok rows' ∧
      ∀ key row, (key, row) ∈ (bound.keysOf records').zip rows' ↔
        (key, row) ∈ (bound.keysOf records).zip rows := by
  have hmem : ∀ record, record ∈ records' ↔ record ∈ records := by
    intro record
    have hrecord := congrArg (record ∈ ·) (hsame (bound.groupKey record))
    simpa [mem_recordsOf] using hrecord
  have hnone := (bound.exists_aggregate_eq_ok_iff records).mp ⟨rows, h⟩
  obtain ⟨rows', hrows'⟩ := (bound.exists_aggregate_eq_ok_iff records').mpr
    fun record hrecord => hnone record ((hmem record).mp hrecord)
  refine ⟨rows', hrows', ?_⟩
  intro key row
  rw [mem_zip_keysOf_iff hkeeps hrows', mem_zip_keysOf_iff hkeeps h,
    hsame key, mem_keysOf, mem_keysOf]
  simp only [hmem]

end BoundSelect

/-! ## Bound statements -/

theorem Plan.index_lt_of_bind {catalog : Catalog} {select : Select}
    (h : Plan.bind catalog select = .ok bound) :
    ∀ column ∈ bound.columns, column.index < bound.reportColumns.length := by
  obtain ⟨table, columns, -, -, -, rfl⟩ := Plan.bind_eq_ok_iff.mp h
  intro column hcolumn
  obtain ⟨i, hi, rfl⟩ := List.mem_iff_getElem.mp hcolumn
  simp only [Plan.boundSelect, List.getElem_zipWith]
  apply List.idxOf_lt_length_of_mem
  rw [List.mem_eraseDups]
  exact List.mem_map_of_mem (List.getElem_mem _)

/-- What a bound statement makes of the records of its report. A record with
enough values has one for every column. The statement fails at the first record
with a fault. Otherwise a statement that keeps records gives for each the row
that it gives for this record alone; any other statement gives for each key, in
the order of the first records, the row that it gives for the records of this
key alone, so that the order of records with different keys does not matter for
the row of a key. -/
theorem BoundSelect.aggregate_of_bind {catalog : Catalog} {select : Select}
    (hbind : Plan.bind catalog select = .ok bound)
    (records : List (List String)) :
    (∀ record ∈ records, bound.reportColumns.length ≤ record.length →
      ∀ column ∈ bound.columns,
        record[column.index]? = some (column.raw record)) ∧
    (∀ e, bound.aggregate records = .error e ↔
      records.findSome? bound.fault? = some e) ∧
    ∀ rows, bound.aggregate records = .ok rows →
      if bound.keepsRecords then
        List.Forall₂ (fun record row => bound.aggregate [record] = .ok [row])
          records rows
      else
        List.Forall₂
          (fun key row => bound.aggregate (bound.recordsOf key records) =
            .ok [row])
          (bound.keysOf records) rows ∧
        ∀ records',
          (∀ key, bound.recordsOf key records' = bound.recordsOf key records) →
          ∃ rows', bound.aggregate records' = .ok rows' ∧
            ∀ key row, (key, row) ∈ (bound.keysOf records').zip rows' ↔
              (key, row) ∈ (bound.keysOf records).zip rows := by
  refine ⟨?_, bound.aggregate_eq_error_iff records, ?_⟩
  · intro record _ hlength column hcolumn
    have hindex :=
      Nat.lt_of_lt_of_le (Plan.index_lt_of_bind hbind column hcolumn) hlength
    rw [BoundColumn.raw, List.getElem?_eq_getElem hindex]
    rfl
  · intro rows hrows
    split
    · next hkeeps => exact aggregate_of_keepsRecords hkeeps hrows
    · next hkeeps =>
        rw [Bool.not_eq_true] at hkeeps
        exact ⟨aggregate_groups hkeeps hrows,
          fun records' hsame => aggregate_of_recordsOf_eq hkeeps hsame hrows⟩

/-- A report of sales. -/
def salesCatalog : Catalog where
  version := "v1"
  tables := [
    { name := "SALES"
      aggregateColumn := "Amount"
      columns := [{ name := "Amount", kind := "LONG" }, { name := "City" }] }]

/-- `SELECT City, MAX(Amount) FROM SALES GROUP BY City` -/
def salesByCity : Select where
  items := [{ column := { name := "City" } },
    { column := { name := "Amount" }, function := some .max }]
  source := "SALES"
  groupBy := [⟨{ name := "City" }, 1⟩]

/-- The statement bound to its report. -/
def boundSalesByCity : BoundSelect :=
  Plan.boundSelect salesByCity salesCatalog.tables[0]
    salesCatalog.tables[0].columns.reverse

/-- The sales of two cities, one of them in between those of the other, give
the rows that each city gives alone; a value that is no number is the fault of
its record, wherever the others are. -/
theorem aggregate_salesByCity :
    Plan.bind salesCatalog salesByCity = .ok boundSalesByCity ∧
    (∃ rome oslo,
      boundSalesByCity.aggregate [["Rome", "1"], ["Oslo", "2"], ["Rome", "3"]] =
        .ok [rome, oslo] ∧
      boundSalesByCity.aggregate [["Rome", "1"], ["Rome", "3"]] = .ok [rome] ∧
      boundSalesByCity.aggregate [["Oslo", "2"]] = .ok [oslo]) ∧
    boundSalesByCity.aggregate [["Rome", "1"], ["Oslo", "many"], ["Rome"]] =
      .error (.cast "many" "LONG") := by
  have hbind : Plan.bind salesCatalog salesByCity = .ok boundSalesByCity := by
    decide
  refine ⟨hbind, ?_, ?_⟩
  · have hclean : [["Rome", "1"], ["Oslo", "2"], ["Rome", "3"]].findSome?
        boundSalesByCity.fault? = none := by
      decide
    have hkeys : boundSalesByCity.keysOf [["Rome", "1"], ["Oslo", "2"],
        ["Rome", "3"]] =
        [boundSalesByCity.groupKey ["Rome", "1"],
          boundSalesByCity.groupKey ["Oslo", "2"]] := by
      decide
    obtain ⟨-, herror, hrows⟩ := BoundSelect.aggregate_of_bind hbind
      [["Rome", "1"], ["Oslo", "2"], ["Rome", "3"]]
    cases haggregate : boundSalesByCity.aggregate [["Rome", "1"], ["Oslo", "2"],
      ["Rome", "3"]] with
    | error e =>
        rw [herror e, hclean] at haggregate
        simp at haggregate
    | ok rows =>
        have hgroups := hrows rows haggregate
        rw [if_neg (by decide), hkeys] at hgroups
        obtain ⟨hgroups, -⟩ := hgroups
        obtain ⟨rome, rest, hrome, hrest, rfl⟩ :=
          List.forall₂_cons_left_iff.mp hgroups
        obtain ⟨oslo, rest, hoslo, hnil, rfl⟩ :=
          List.forall₂_cons_left_iff.mp hrest
        obtain rfl := List.forall₂_nil_left_iff.mp hnil
        refine ⟨rome, oslo, rfl, ?_, ?_⟩
        · rw [← hrome]
          exact congrArg boundSalesByCity.aggregate (by decide)
        · rw [← hoslo]
          exact congrArg boundSalesByCity.aggregate (by decide)
  · rw [(BoundSelect.aggregate_of_bind hbind _).2.1]
    decide

end ReportQuery
