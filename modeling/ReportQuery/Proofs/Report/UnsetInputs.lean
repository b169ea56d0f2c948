import Mathlib.Data.List.ReduceOption
import ReportQuery.Proofs.Report.Extremes

/-!
# Unset inputs

An unset input counts as a record of its group and leaves everything else as it
is. So SUM, AVG, MIN and MAX give what they make of the set inputs of the group
alone, in their order; they start from the first one, and AVG weighs a value by
the number of set inputs that gave it.
-/

namespace ReportQuery

namespace AggregateFunction

/-- The value after one more set input, when there were `n` of them before. -/
def join (function : AggregateFunction) (n : Nat) (before input : Float) :
    Float :=
  match function with
  | .count => before
  | .sum => before + input
  | .avg => (before * Float.ofNat n + input) / (Float.ofNat n + 1.0)
  | .max => if before < input ∨ before.isNaN then input else before
  | .min => if input < before ∨ before.isNaN then input else before

/-- What a function makes of set inputs; there is no value without any. -/
def ofSet? (function : AggregateFunction) : List Float → Option Float
  | [] => none
  | first :: rest =>
    some ((rest.zipIdx 1).foldl
      (fun before entry => function.join entry.2 before entry.1) first)

end AggregateFunction

/-- What a record gives the function of a column: COUNT takes no value of it. -/
def BoundColumn.input (column : BoundColumn) (record : List String) :
    Except QueryError (Option Float) :=
  if column.function = some .count then .ok none
  else numericInput (column.raw record) column.kind

namespace Accumulator

/-- The state of a group after its inputs. -/
def ofInputs (function : AggregateFunction) (inputs : List (Option Float)) :
    Accumulator :=
  inputs.foldl (update function) {}

/-- What a state tells of the inputs: all of them are records, and the set ones
make the value. -/
structure Tells (function : AggregateFunction) (inputs : List (Option Float))
    (state : Accumulator) : Prop where
  rows : state.rows = inputs.length
  valid : state.valid = inputs.reduceOption.length
  value : function ≠ .count → state.value = function.ofSet? inputs.reduceOption

end Accumulator

/-- What the cell of a group tells of its inputs: COUNT the number of records,
the others whether there was a set one. -/
structure AggregateFunction.Finishes (function : AggregateFunction)
    (kind : Kind) (inputs : List (Option Float)) (cell : Cell) : Prop where
  count : function = .count →
    cell = Cell.float (some (Float.ofNat inputs.length)) 0
  sum : function = .sum → inputs.reduceOption = [] →
    cell = Cell.float (some 0.0) kind.precision
  unset : function = .avg ∨ function = .min ∨ function = .max →
    (cell.isUnset = true ↔ inputs.reduceOption = [])

/-- The input that a raw value of a day or a moment gives counts the seconds of
a moment. -/
theorem isSome_ofTimestamp?_of_numericInput {raw tag : String} {x : Float}
    (h : numericInput raw tag = .ok (some x))
    (hkind : (Kind.ofTag tag).isCalendar = true) :
    (Moment.ofTimestamp? (Decimal.wholePart x)).isSome = true := by
  obtain ⟨cell, hcell, h⟩ := Except.bind_eq_ok_iff.mp h
  split at h
  · simp at h
  · next hset =>
      obtain ⟨n, hn⟩ := Cell.exists_whole_of_cast hcell (by simpa using hset)
        (.inr hkind)
      rw [hn.toFloat?_eq] at h
      obtain rfl := Option.some.inj (Except.ok.inj h)
      generalize Kind.ofTag tag = kind at hn hkind
      cases hn with
      | int => exact absurd hkind Bool.false_ne_true
      | date _ hclock | dateTime _ hclock =>
          rw [hclock.wholePart_timestamp, hclock.ofTimestamp?_timestamp]
          rfl

namespace AggregateFunction

variable {function : AggregateFunction}

/-- One more set input is joined to the value of those before it. -/
theorem ofSet?_append_singleton (hvalue : function ≠ .count)
    (inputs : List Float) (x : Float) :
    function.ofSet? (inputs ++ [x]) =
      Accumulator.combine function inputs.length
        (function.ofSet? inputs) x := by
  cases inputs with
  | nil =>
      cases function with
      | count => exact absurd rfl hvalue
      | sum | avg | max | min => rfl
  | cons first rest =>
      have hjoin : ∀ before, some (function.join (rest.length + 1) before x) =
          Accumulator.combine function (rest.length + 1) (some before) x := by
        intro before
        cases function with
        | count => exact absurd rfl hvalue
        | sum | avg | max | min => rfl
      rw [List.cons_append, ofSet?, List.zipIdx_append, List.foldl_append,
        Nat.add_comm 1]
      exact hjoin _

theorem ofSet?_eq_none_iff {inputs : List Float} :
    function.ofSet? inputs = none ↔ inputs = [] := by
  cases inputs <;> simp [ofSet?]

/-- MIN and MAX pick one of two values. -/
theorem eq_or_eq_of_combine (hextreme : function = .min ∨ function = .max)
    {n : Nat} {before : Option Float} {input x : Float}
    (h : Accumulator.combine function n before input = some x) :
    x = input ∨ before = some x := by
  cases before with
  | none =>
      left
      rcases hextreme with rfl | rfl <;> exact (Option.some.inj h).symm
  | some y =>
      rcases hextreme with rfl | rfl
      · have hpick := Option.some.inj h
        split at hpick
        · exact .inl hpick.symm
        · exact .inr (congrArg some hpick)
      · have hpick := Option.some.inj h
        split at hpick
        · exact .inl hpick.symm
        · exact .inr (congrArg some hpick)

/-- So they give one of the inputs. -/
theorem mem_of_ofSet? (hextreme : function = .min ∨ function = .max)
    {inputs : List Float} {x : Float} (h : function.ofSet? inputs = some x) :
    x ∈ inputs := by
  have hvalue : function ≠ .count := by
    rcases hextreme with rfl | rfl <;> decide
  induction inputs using List.reverseRecOn generalizing x with
  | nil => simp [ofSet?] at h
  | append_singleton inputs last ih =>
      rw [ofSet?_append_singleton hvalue] at h
      rcases eq_or_eq_of_combine hextreme h with rfl | hbefore
      · exact List.mem_append_right _ List.mem_cons_self
      · exact List.mem_append_left _ (ih hbefore)

end AggregateFunction

/-! ## The state of a group -/

namespace Accumulator

variable {function : AggregateFunction} {inputs : List (Option Float)}
  {state : Accumulator}

/-- One more input keeps what a state tells. -/
theorem Tells.update (h : Tells function inputs state) (input : Option Float) :
    Tells function (inputs ++ [input]) (state.update function input) := by
  cases input with
  | none =>
      have hset : (inputs ++ [none]).reduceOption = inputs.reduceOption := by
        simp [List.reduceOption_append]
      constructor
      · simp [Accumulator.update, h.rows]
      · rw [hset]
        exact h.valid
      · rw [hset]
        exact h.value
  | some x =>
      have hset : (inputs ++ [some x]).reduceOption =
          inputs.reduceOption ++ [x] := by
        simp [List.reduceOption_append]
      constructor
      · simp [Accumulator.update, h.rows]
      · simp [Accumulator.update, hset, h.valid]
      · intro hvalue
        rw [hset, AggregateFunction.ofSet?_append_singleton hvalue,
          ← h.value hvalue, ← h.valid]
        rfl

theorem tells_ofInputs (function : AggregateFunction)
    (inputs : List (Option Float)) :
    Tells function inputs (ofInputs function inputs) := by
  induction inputs using List.reverseRecOn with
  | nil => exact ⟨rfl, rfl, fun _ => rfl⟩
  | append_singleton inputs input ih =>
      rw [ofInputs, List.foldl_append]
      exact ih.update input

/-- Sequences with the same set inputs differ in their records only. -/
theorem Tells.finish_eq {others : List (Option Float)} {other : Accumulator}
    (h : Tells function inputs state) (hother : Tells function others other)
    (hvalue : function ≠ .count)
    (hset : others.reduceOption = inputs.reduceOption) :
    other.valid = state.valid ∧ other.value = state.value ∧
      ∀ kind, other.finish function kind = state.finish function kind := by
  have hvalues : other.value = state.value := by
    rw [hother.value hvalue, h.value hvalue, hset]
  refine ⟨by rw [hother.valid, h.valid, hset], hvalues, fun kind => ?_⟩
  cases function with
  | count => exact absurd rfl hvalue
  | sum | avg | max | min => simp only [finish, hvalues]

/-! ## The finished cell -/

theorem finish_eq_float
    (hcomputed : function = .avg ∨ function = .min ∨ function = .max)
    {kind : Kind} (hfloat : function = .avg ∨ kind.isCalendar = false) :
    state.finish function kind = Cell.float state.value kind.precision := by
  rcases hfloat with rfl | hkind
  · rfl
  · rcases hcomputed with rfl | rfl | rfl
    · rfl
    · rw [finish, if_neg (by simp [hkind])]
    · rw [finish, if_neg (by simp [hkind])]

theorem finish_eq_ofSeconds (hextreme : function = .min ∨ function = .max)
    {kind : Kind} (hkind : kind.isCalendar = true) :
    state.finish function kind =
      Cell.ofSeconds (state.value.map Decimal.wholePart) kind := by
  rcases hextreme with rfl | rfl <;> exact if_pos hkind

/-- The cell of a group; the inputs of a column of days or moments count
seconds of moments. -/
theorem Tells.finishes (h : Tells function inputs state) {kind : Kind}
    (hinputs : function = .min ∨ function = .max → kind.isCalendar = true →
      ∀ x ∈ inputs.reduceOption,
        (Moment.ofTimestamp? (Decimal.wholePart x)).isSome = true) :
    function.Finishes kind inputs (state.finish function kind) := by
  constructor
  · rintro rfl
    rw [finish, h.rows]
  · rintro rfl hnone
    rw [finish, h.value (by decide), hnone]
    rfl
  · intro hcomputed
    have hvalue : state.value = function.ofSet? inputs.reduceOption :=
      h.value (by rcases hcomputed with rfl | rfl | rfl <;> decide)
    have hnone : state.value = none ↔ inputs.reduceOption = [] := by
      rw [hvalue, AggregateFunction.ofSet?_eq_none_iff]
    rw [← hnone]
    by_cases hfloat : function = .avg ∨ kind.isCalendar = false
    · rw [finish_eq_float hcomputed hfloat]
      exact Option.isNone_iff_eq_none
    · rw [not_or, Bool.not_eq_false] at hfloat
      obtain ⟨havg, hkind⟩ := hfloat
      have hextreme := hcomputed.resolve_left havg
      rw [finish_eq_ofSeconds hextreme hkind]
      cases hstate : state.value with
      | none => exact iff_of_true rfl rfl
      | some x =>
          have hx : x ∈ inputs.reduceOption :=
            AggregateFunction.mem_of_ofSet? hextreme (hvalue.symm.trans hstate)
          refine iff_of_false ?_ (Option.some_ne_none x)
          change ¬ (Moment.ofTimestamp? (Decimal.wholePart x)).isNone = true
          rw [Bool.not_eq_true, Option.isNone_eq_false_iff]
          exact hinputs hextreme hkind x hx

end Accumulator

/-! ## The groups of a report -/

namespace BoundColumn

variable {column : BoundColumn} {function : AggregateFunction}

theorem step_eq_map_input (hfunction : column.function = some function)
    (record : List String) (tally : Tally) :
    column.step record tally = (column.input record).map fun input =>
      { tally with
        accumulator := tally.accumulator.update function input } := by
  rw [step, input, hfunction]
  cases function <;> rfl

/-- The tally of a group holds the state after the inputs of its own records. -/
theorem exists_inputs_of_tally (hfunction : column.function = some function)
    {records : List (List String)} {tally : Tally}
    (h : column.tally records = .ok tally) :
    ∃ inputs, List.Forall₂ (fun record input => column.input record = .ok input)
      records inputs ∧
      tally.accumulator = Accumulator.ofInputs function inputs := by
  induction records using List.reverseRecOn generalizing tally with
  | nil =>
      obtain rfl := Except.ok.inj h
      exact ⟨[], .nil, rfl⟩
  | append_singleton records record ih =>
      rw [BoundColumn.tally, List.foldlM_append] at h
      obtain ⟨before, hbefore, hlast⟩ := Except.bind_eq_ok_iff.mp h
      obtain ⟨after, hafter, hend⟩ := Except.bind_eq_ok_iff.mp hlast
      obtain rfl := Except.ok.inj hend
      obtain ⟨input, hinput, rfl⟩ :=
        Except.map_eq_ok_iff.mp
          ((step_eq_map_input hfunction record before).symm.trans hafter)
      obtain ⟨inputs, hinputs, hstate⟩ := ih hbefore
      refine ⟨inputs ++ [input], List.rel_append hinputs (.cons hinput .nil),
        ?_⟩
      rw [Accumulator.ofInputs, List.foldl_append]
      exact congrArg (fun state => state.update function input) hstate

end BoundColumn

/-- The cells of a column with a function, group by group. -/
theorem BoundSelect.forall₂_finish_of_aggregate {bound : BoundSelect}
    {records : List (List String)} {rows : List (List Cell)}
    (h : bound.aggregate records = .ok rows) {i : Nat} {column : BoundColumn}
    (hcolumn : bound.columns[i]? = some column) {function : AggregateFunction}
    (hfunction : column.function = some function) :
    List.Forall₂
      (fun key row => ∃ inputs,
        List.Forall₂ (fun record input => column.input record = .ok input)
          (bound.recordsOf key records) inputs ∧
        row[i]? = some ((Accumulator.ofInputs function inputs).finish function
          (Kind.ofTag column.kind)))
      (bound.keysOf records) rows := by
  have hkeeps : bound.keepsRecords = false :=
    keepsRecords_of_function (List.mem_of_getElem? hcolumn)
      (by simp [hfunction])
  refine forall₂_rows_of_tallies hkeeps h fun key _ tallies htallies => ?_
  obtain ⟨tally, htally, hcell⟩ := getElem?_finishRow hcolumn htallies
  obtain ⟨inputs, hinputs, hstate⟩ :=
    BoundColumn.exists_inputs_of_tally hfunction htally
  refine ⟨inputs, hinputs, ?_⟩
  rw [hcell, BoundColumn.finish, hfunction, ← hstate]

/-- Every input counts as a record, and SUM, AVG, MIN and MAX give what they
make of the set inputs alone, so that unset ones can be put in or taken out
anywhere. The cell at the end tells how many records there were, or whether
there was a set input, where MIN and MAX of a column of days or moments take
seconds of moments. In a report each group has the inputs of its own records,
and they are such seconds. -/
theorem BoundSelect.cells_of_set_inputs (function : AggregateFunction) :
    (∀ inputs, Accumulator.Tells function inputs
      (Accumulator.ofInputs function inputs)) ∧
    (∀ inputs others : List (Option Float), function ≠ .count →
      others.reduceOption = inputs.reduceOption →
        (Accumulator.ofInputs function others).valid =
          (Accumulator.ofInputs function inputs).valid ∧
        (Accumulator.ofInputs function others).value =
          (Accumulator.ofInputs function inputs).value ∧
        ∀ kind, (Accumulator.ofInputs function others).finish function kind =
          (Accumulator.ofInputs function inputs).finish function kind) ∧
    (∀ (inputs : List (Option Float)) (kind : Kind),
      (function = .min ∨ function = .max → kind.isCalendar = true →
        ∀ x ∈ inputs.reduceOption,
          (Moment.ofTimestamp? (Decimal.wholePart x)).isSome = true) →
      function.Finishes kind inputs
        ((Accumulator.ofInputs function inputs).finish function kind)) ∧
    ∀ (bound : BoundSelect) (records : List (List String))
      (rows : List (List Cell)), bound.aggregate records = .ok rows →
        ∀ (i : Nat) (column : BoundColumn), bound.columns[i]? = some column →
          column.function = some function →
          List.Forall₂
            (fun key row => ∃ inputs cell,
              List.Forall₂ (fun record input => column.input record = .ok input)
                (bound.recordsOf key records) inputs ∧
              row[i]? = some cell ∧
              cell = (Accumulator.ofInputs function inputs).finish function
                (Kind.ofTag column.kind) ∧
              function.Finishes (Kind.ofTag column.kind) inputs cell)
            (bound.keysOf records) rows := by
  refine ⟨Accumulator.tells_ofInputs function,
    fun inputs others hvalue hset => ?_,
    fun inputs kind hinputs =>
      (Accumulator.tells_ofInputs function inputs).finishes hinputs,
      fun bound records rows hrows i column hcolumn hfunction => ?_⟩
  · exact (Accumulator.tells_ofInputs function inputs).finish_eq
      (Accumulator.tells_ofInputs function others) hvalue hset
  · refine (forall₂_finish_of_aggregate hrows hcolumn hfunction).imp ?_
    rintro key row ⟨inputs, hinputs, hcell⟩
    refine ⟨inputs, _, hinputs, hcell, rfl,
      (Accumulator.tells_ofInputs function inputs).finishes
        fun hextreme hkind x hx => ?_⟩
    obtain ⟨record, -, hrecord⟩ :=
      List.exists_left_of_forall₂ hinputs (List.reduceOption_mem_iff.mp hx)
    have hother : column.function ≠ some .count := by
      rw [hfunction]
      rcases hextreme with rfl | rfl <;> decide
    rw [BoundColumn.input, if_neg hother] at hrecord
    exact isSome_ofTimestamp?_of_numericInput hrecord hkind

/-- `SELECT City, AVG(Amount) FROM SALES GROUP BY City` -/
def meanByCity : Select where
  items := [{ column := { name := "City" } },
    { column := { name := "Amount" }, function := some .avg }]
  source := "SALES"
  groupBy := [⟨{ name := "City" }, 1⟩]

/-- The statement bound to its report. -/
def boundMeanByCity : BoundSelect :=
  { boundSalesByCity with
    columns := boundSalesByCity.columns.map fun column =>
      { column with function := column.function.map fun _ => .avg } }

/-- The sales of two cities; some have no amount. -/
def unevenSales : List (List String) :=
  [["Rome", " --"], ["Oslo", " --"], ["Rome", "1"], ["Rome", " --"],
    ["Oslo", " --"], ["Rome", "3"]]

/-- The mean of two set amounts is that of them alone, among records without an
amount and those of another city, which has none; a day among unset ones is
set. -/
theorem BoundSelect.cells_of_set_inputs_unevenSales :
    Plan.bind salesCatalog meanByCity = .ok boundMeanByCity ∧
    (∃ rome oslo cell, boundMeanByCity.aggregate unevenSales =
      .ok [rome, oslo] ∧ rome[1]? = some (Cell.float
        (some ((Float.ofInt 1 * Float.ofNat 1 + Float.ofInt 3) /
          (Float.ofNat 1 + 1.0))) 0) ∧
      oslo[1]? = some cell ∧ cell.isUnset = true) ∧
    ((Accumulator.ofInputs .min [none, some (Float.ofInt 1505260800),
      none]).finish .min
      .date).isUnset = false := by
  have hclean : ∀ record ∈ unevenSales, boundMeanByCity.fault? record =
      none := by decide
  have hkeys : boundMeanByCity.keysOf unevenSales =
      [boundMeanByCity.groupKey ["Rome", "1"],
        boundMeanByCity.groupKey ["Oslo", " --"]] := by
    decide
  have hrome :
      boundMeanByCity.recordsOf (boundMeanByCity.groupKey ["Rome", "1"])
        unevenSales =
      [["Rome", " --"], ["Rome", "1"], ["Rome", " --"], ["Rome", "3"]] := by
    decide
  have hoslo :
      boundMeanByCity.recordsOf (boundMeanByCity.groupKey ["Oslo", " --"])
        unevenSales =
      [["Oslo", " --"], ["Oslo", " --"]] := by
    decide
  obtain ⟨rows, hrows⟩ :=
    (boundMeanByCity.exists_aggregate_eq_ok_iff unevenSales).mpr hclean
  refine ⟨by decide, ?_, ?_⟩
  · have hgroups := (cells_of_set_inputs .avg).2.2.2 boundMeanByCity unevenSales
      rows hrows 1 boundMeanByCity.columns[1] rfl rfl
    rw [hkeys] at hgroups
    obtain ⟨rome, rest, hromeRow, hrest, rfl⟩ :=
      List.forall₂_cons_left_iff.mp hgroups
    obtain ⟨oslo, rest, hosloRow, hnil, rfl⟩ :=
      List.forall₂_cons_left_iff.mp hrest
    obtain rfl := List.forall₂_nil_left_iff.mp hnil
    rw [hrome] at hromeRow
    rw [hoslo] at hosloRow
    obtain ⟨romeInputs, _, hromeInputs, hromeCell, rfl, -⟩ := hromeRow
    obtain ⟨osloInputs, osloCell, hosloInputs, hosloCell, -, hosloFinishes⟩ :=
      hosloRow
    have hromeEq : romeInputs =
        [none, some (Float.ofInt 1), none, some (Float.ofInt 3)] :=
      Except.ok.inj ((Except.mapM_eq_ok_iff.mpr hromeInputs).symm.trans rfl)
    have hosloEq : osloInputs = [none, none] :=
      Except.ok.inj ((Except.mapM_eq_ok_iff.mpr hosloInputs).symm.trans rfl)
    subst hromeEq hosloEq
    exact ⟨rome, oslo, osloCell, hrows, hromeCell, hosloCell,
      (hosloFinishes.unset (.inl rfl)).mpr rfl⟩
  · have hday : numericInput "2017-09-13" "DATE" =
        .ok (some (Float.ofInt 1505260800)) := rfl
    have hfinishes := (cells_of_set_inputs .min).2.2.1
      [none, some (Float.ofInt 1505260800), none] .date fun _ hkind x hx => by
        obtain rfl : x = Float.ofInt 1505260800 := by simpa using hx
        exact isSome_ofTimestamp?_of_numericInput hday hkind
    rw [Bool.eq_false_iff, ne_eq, hfinishes.unset (.inr (.inl rfl))]
    simp

end ReportQuery
