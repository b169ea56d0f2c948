import ReportQuery.Proofs.Plan.Merge
import ReportQuery.Session

/-!
# Tables with contents

What a reduced statement asks of the contents of a table: the records of its
days that satisfy all its conditions, in the order of the table, with the
columns it names. How conditions compare is left open. Merging clauses means
taking both: a record passes the merged clauses when it passes those of the
statement and those of the view.
-/

namespace ReportQuery

/-- A record of a table: the day it belongs to and the raw values of its
columns. -/
structure DayRecord where
  day : Day
  cell : String → String

/-- The records of the tables, by name. -/
abbrev Contents := String → List DayRecord

/-- Whether a raw value passes an operator with the values of a condition,
quoted or not. -/
abbrev Comparison := Operator → List String → Bool → String → Bool

namespace DayRecord

/-- Whether a record passes a condition. -/
def satisfies (holds : Comparison) (record : DayRecord) (c : Condition) :
    Bool :=
  holds c.operator c.values c.literal (record.cell c.column)

/-- Whether a record belongs to the days of a clause; without a clause every
record does. -/
def isDuring (today : Day) (record : DayRecord) : Option During → Bool
  | none => true
  | some during =>
    let days := Plan.resolveDays today during
    decide (days.start ≤ record.day ∧ record.day ≤ days.stop)

/-- Whether a record passes the days and the conditions of a statement. -/
def passes (holds : Comparison) (today : Day) (during : Option During)
    (conditions : List Condition) (record : DayRecord) : Bool :=
  record.isDuring today during && conditions.all (record.satisfies holds)

end DayRecord

/-- The records that a reduced statement is answered with. -/
def Contents.respond (contents : Contents) (holds : Comparison) (today : Day)
    (request : Select) : Records :=
  ((contents request.source).filter
    (DayRecord.passes holds today request.during request.conditions)).map
    fun record =>
      request.items.map fun item => record.cell item.name

/-- The rows of a statement on a report, when a source answers what it asks. -/
def Plan.evaluate (catalog : Catalog) (source : Select → Records) (s : Select) :
    Except QueryError ResultSet :=
  (bind catalog s).bind fun bound => bound.answer (source bound.request)

namespace Plan

/-! ## Merged days -/

/-- The merged days are those of both clauses. -/
theorem isDuring_mergeDuring {today : Day} {own shown during : Option During}
    (h : mergeDuring today own shown = .ok during) (record : DayRecord) :
    record.isDuring today during =
      (record.isDuring today own && record.isDuring today shown) := by
  cases own with
  | none =>
      obtain rfl : shown = during := by
        cases shown <;> exact Except.ok.inj h
      simp [DayRecord.isDuring]
  | some own =>
      cases shown with
      | none =>
          obtain rfl : some own = during := Except.ok.inj h
          simp [DayRecord.isDuring]
      | some shown =>
          rcases mergeDuring_cases today own shown with
            ⟨-, merged, hmerged, hdays⟩ | ⟨-, hrefused⟩
          · obtain rfl := Except.ok.inj (hmerged.symm.trans h)
            simp only [DayRecord.isDuring, hdays]
            rw [← Bool.decide_and, decide_eq_decide]
            exact DaySpan.contains_common_iff
          · simp [hrefused] at h

/-! ## Merged conditions -/

/-- A condition of the view is added, or the statement has it already. -/
theorem all_addedConditions {view : String} {own shown added : List Condition}
    (h : addedConditions view own shown = .ok added) (test : Condition → Bool) :
    (own ++ added).all test = (own.all test && shown.all test) := by
  rw [List.all_append]
  induction shown generalizing added with
  | nil =>
      obtain rfl : [] = added := Except.ok.inj h
      rfl
  | cons c rest ih =>
      simp only [addedConditions] at h
      split at h
      · obtain ⟨later, hlater, rfl⟩ := Except.map_eq_ok_iff.mp h
        have hrest := ih hlater
        rw [List.all_cons, List.all_cons, Bool.and_left_comm, hrest,
          Bool.and_left_comm]
      · next hsome =>
          split at h
          · next hequal =>
              rw [ih h, List.all_cons]
              have hmem : c ∈ own := by
                obtain ⟨d, hd⟩ := List.exists_mem_of_ne_nil _
                  (mt List.isEmpty_iff.mpr hsome)
                have hdc := List.all_eq_true.mp hequal d hd
                rw [beq_iff_eq] at hdc
                exact hdc ▸ (List.mem_filter.mp hd).1
              cases hown : own.all test with
              | false => rfl
              | true =>
                  have hc := List.all_eq_true.mp hown c hmem
                  rw [hc, Bool.true_and, Bool.true_and]
          · simp at h

/-- A renamed condition differs in its column, which is that of the view's
column. -/
theorem renameCondition_eq_ok_iff {table : Table} {c renamed : Condition} :
    renameCondition table c = .ok renamed ↔
      ∃ column, table.column? c.column = some column ∧
        { c with column := column.name } = renamed := by
  rw [renameCondition]
  cases table.column? c.column <;> simp

theorem mergeConditions_eq_ok_iff {own shown conditions : List Condition}
    {table : Table} :
    mergeConditions own shown table = .ok conditions ↔
      ∃ renamed added,
        List.Forall₂ (fun c d => renameCondition table c = .ok d) own renamed ∧
        addedConditions table.name renamed shown = .ok added ∧
          renamed ++ added = conditions := by
  rw [mergeConditions, Except.bind_eq_ok_iff]
  constructor
  · rintro ⟨renamed, hrenamed, hrest⟩
    obtain ⟨added, hadded, rfl⟩ := Except.map_eq_ok_iff.mp hrest
    exact ⟨renamed, added, Except.mapM_eq_ok_iff.mp hrenamed, hadded, rfl⟩
  · rintro ⟨renamed, added, hrenamed, hadded, rfl⟩
    exact ⟨renamed, Except.mapM_eq_ok_iff.mpr hrenamed,
      Except.map_eq_ok_iff.mpr ⟨added, hadded, rfl⟩⟩

end Plan

end ReportQuery
