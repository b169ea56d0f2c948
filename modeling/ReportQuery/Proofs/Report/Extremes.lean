import ReportQuery.Proofs.Calendar.Timestamps
import ReportQuery.Proofs.Decimal.WholeNumbers
import ReportQuery.Proofs.Report.Grouping
import ReportQuery.Proofs.Report.RowOrder

/-!
# MIN and MAX

MIN and MAX compare the doubles of cells and give a double back, while ORDER BY
compares the cells. In a column of integers, days or moments the double of a
cell comes from a whole number, and the conversion keeps the order of whole
numbers. So MAX gives what it makes of the cell that ORDER BY puts last, and
MIN of the one that it puts first. A day is given back as it is. An integer is
when it is a double, and a moment is when it is no leap second, which has the
timestamp of the second before it.
-/

namespace ReportQuery

/-- A set cell of a column of integers, days or moments, and the whole number
behind its double. -/
inductive Cell.Whole : Kind → Cell → Int → Prop
  | int {cell : Cell} {n : Int} (hvalue : cell.value = .int (some n))
      (hsize : n.natAbs < 2 ^ 64) : Whole .int cell n
  | date {cell : Cell} {m : Moment} (hvalue : cell.value = .date (some m) .day)
      (hclock : m.OnClock) (hleap : m.leap = false) :
        Whole .date cell m.timestamp
  | dateTime {cell : Cell} {m : Moment} (hvalue : cell.value =
      .date (some m) .moment)
      (hclock : m.OnClock) : Whole .dateTime cell m.timestamp

/-- What MIN and MAX give for a cell: an integer as a double without decimals,
a day or a moment without its leap second. -/
def Cell.asExtreme (cell : Cell) : Cell :=
  match cell.value with
  | .int value => Cell.float (value.map Float.ofInt) 0
  | .date value style =>
    { value := .date (value.map fun m => { m with leap := false }) style }
  | _ => cell

/-- A column as a result set of its own, in the order that ORDER BY gives. -/
def ResultSet.ofColumn (cells : List Cell) : ResultSet :=
  (ofRows [""] (cells.map fun cell => [cell])).sort [⟨0, false⟩]

/-- The row that ORDER BY puts last, for MAX, or first. -/
def AggregateFunction.outermost? (function : AggregateFunction)
    (cells : List Cell) : Option (List Cell) :=
  if function = .max then (ResultSet.ofColumn cells).rows.getLast?
  else (ResultSet.ofColumn cells).rows.head?

/-- One cell is at least as far out as another one: as great for MAX, as small
otherwise. -/
def AggregateFunction.Reaches (function : AggregateFunction) (far near : Cell) :
    Prop :=
  if function = .max then near.compare far ≠ .gt else far.compare near ≠ .gt

/-- The greater of two whole numbers for MAX, the smaller otherwise. -/
def AggregateFunction.pick (function : AggregateFunction) (m n : Int) : Int :=
  if function = .max then Max.max m n else Min.min m n

/-- The tally of a column after records that are all in one group. -/
def BoundColumn.tally (column : BoundColumn) (records : List (List String)) :
    Except QueryError Tally :=
  records.foldlM (fun tally record => column.step record tally) {}

/-! ## One cell -/

/-- The double of a timestamp is turned back into it. -/
theorem Moment.OnClock.wholePart_timestamp {m : Moment} (h : m.OnClock) :
    Decimal.wholePart (Float.ofInt m.timestamp) = m.timestamp := by
  have hsmall := h.natAbs_timestamp_lt
  have hdenotes := (Decimal.denotes_ofInt_iff (hsmall.trans (by decide))).mpr
    (Decimal.isDouble_of_natAbs_le hsmall.le)
  have hsigned : (Numeral.signedBound : Int) = 2 ^ 63 := rfl
  exact hdenotes.wholePart_eq (by omega) (by omega)

namespace Cell

theorem natAbs_lt_of_signedWord? {cs : List Char} {n : Int}
    (h : Numeral.signedWord? cs = some n) : n.natAbs < 2 ^ 64 := by
  obtain ⟨-, hbounds⟩ := Option.filter_eq_some_iff.mp h
  simp only [Bool.and_eq_true, decide_eq_true_iff] at hbounds
  have hlow : -(2 ^ 63 : Int) ≤ n := hbounds.1
  have hhigh : n < 2 ^ 63 := hbounds.2
  omega

theorem exists_whole_of_readValue? {payload : String} {kind : Kind}
    {cell : Cell} (h : readValue? payload kind = some cell.value)
    (hkind : kind = .int ∨ kind.isCalendar = true) :
    ∃ n, Whole kind cell n := by
  cases kind with
  | int =>
      rw [readValue?, readInt?] at h
      obtain ⟨n, hn, hvalue⟩ := Option.map_eq_some_iff.mp h
      exact ⟨n, .int hvalue.symm (natAbs_lt_of_signedWord? hn)⟩
  | date =>
      rw [readValue?, readDate?] at h
      obtain ⟨m, hm, hvalue⟩ := Option.map_eq_some_iff.mp h
      exact ⟨_, .date hvalue.symm (Calendar.onClock_of_readMoment? hm)
        (Calendar.leap_of_readMoment? (by decide) hm)⟩
  | dateTime =>
      rw [readValue?, readDate?] at h
      obtain ⟨m, hm, hvalue⟩ := Option.map_eq_some_iff.mp h
      exact ⟨_, .dateTime hvalue.symm (Calendar.onClock_of_readMoment? hm)⟩
  | double | text => simp [Kind.isCalendar] at hkind

theorem isUnset_unset (kind : Kind) : (unset kind).isUnset = true := by
  cases kind <;> rfl

theorem exists_whole_of_cast {raw tag : String} {cell : Cell}
    (h : cast raw tag = .ok cell) (hset : cell.isUnset = false)
    (hkind : Kind.ofTag tag = .int ∨ (Kind.ofTag tag).isCalendar = true) :
    ∃ n, Whole (Kind.ofTag tag) cell n := by
  unfold cast at h
  split at h
  · next found hfound =>
      obtain rfl := Except.ok.inj h
      unfold cast? at hfound
      split at hfound
      · rw [← Option.some.inj hfound, isUnset_unset] at hset
        simp at hset
      · rw [← Option.some.inj hfound] at hset
        exact absurd (isUnset_unset (Kind.ofTag tag))
          (by simpa [isUnset] using hset)
      · rw [← Option.some.inj hfound] at hset
        exact absurd (isUnset_unset (Kind.ofTag tag))
          (by simpa [isUnset] using hset)
      all_goals
        obtain ⟨value, hvalue, rfl⟩ := Option.map_eq_some_iff.mp hfound
        exact exists_whole_of_readValue? hvalue hkind
  · simp at h

namespace Whole

variable {kind : Kind} {cell a b : Cell} {m n : Int}

theorem natAbs_lt (h : Whole kind cell n) : n.natAbs < 2 ^ 64 := by
  cases h with
  | int _ hsize => exact hsize
  | date _ hclock | dateTime _ hclock =>
      exact hclock.natAbs_timestamp_lt.trans (by decide)

theorem toFloat?_eq (h : Whole kind cell n) :
    cell.toFloat? = some (Float.ofInt n) := by
  cases h with
  | int hvalue | date hvalue | dateTime hvalue => rw [toFloat?, hvalue]; rfl

theorem form_eq (h : Whole kind cell n) : cell.value.form = kind.form := by
  cases h with
  | int hvalue | date hvalue | dateTime hvalue => rw [hvalue]; rfl

theorem isNaN_eq (h : Whole kind cell n) : cell.value.isNaN = false := by
  cases h with
  | int hvalue | date hvalue | dateTime hvalue => rw [hvalue]; rfl

/-- The order of cells is that of their whole numbers, but for leap seconds. -/
theorem le_of_compare_ne_gt (ha : Whole kind a m) (hb : Whole kind b n)
    (h : a.compare b ≠ .gt) : m ≤ n := by
  cases ha with
  | int hvalue =>
      cases hb with
      | int hvalue' =>
          rw [compare, hvalue, hvalue'] at h
          exact Int.not_lt.mp fun hlt => h (Int.compare_eq_gt.mpr hlt)
  | date hvalue =>
      cases hb with
      | date hvalue' =>
          rw [compare, hvalue, hvalue'] at h
          exact Moment.timestamp_le_of_compare_ne_gt h
  | dateTime hvalue =>
      cases hb with
      | dateTime hvalue' =>
          rw [compare, hvalue, hvalue'] at h
          exact Moment.timestamp_le_of_compare_ne_gt h

theorem eq_of_int {k : Int} (h : Whole kind cell n)
    (hvalue : cell.value = .int (some k)) : k = n := by
  cases h with
  | int hvalue' => simpa [hvalue'] using hvalue.symm
  | date hvalue' | dateTime hvalue' => simp [hvalue'] at hvalue

/-- A day has no leap second to lose. -/
theorem value_asExtreme (h : Whole .date cell n) :
    cell.asExtreme.value = cell.value := by
  cases h with
  | @date _ m hvalue _ hleap =>
      rw [asExtreme, hvalue]
      simp [← hleap]

/-- The double of a cell is turned back into what MIN and MAX give for it. -/
theorem finish_eq {function : AggregateFunction}
    (hextreme : function = .min ∨ function = .max) (h : Whole kind cell n)
    {state : Accumulator} (hstate : state.value = some (Float.ofInt n)) :
    state.finish function kind = cell.asExtreme := by
  have hfinish : state.finish function kind =
      if kind.isCalendar then
        ofSeconds (some (Decimal.wholePart (Float.ofInt n))) kind
      else float (some (Float.ofInt n)) kind.precision := by
    rcases hextreme with rfl | rfl <;>
      simp only [Accumulator.finish, hstate, Option.map_some]
  rw [hfinish, asExtreme]
  cases h with
  | int hvalue => rw [hvalue]; rfl
  | date hvalue hclock | dateTime hvalue hclock =>
      rw [hvalue, hclock.wholePart_timestamp, if_pos (by decide), ofSeconds,
        Option.bind_some, hclock.ofTimestamp?_timestamp]
      rfl

end Whole

end Cell

/-! ## The cells of a column in order -/

namespace ResultSet

variable {kind : Kind} {cells : List Cell}

theorem sortable_column (hwhole : ∀ cell ∈ cells, ∃ n, Cell.Whole kind cell n) :
    (ofRows [""] (cells.map fun cell => [cell])).Sortable [⟨0, false⟩] := by
  intro key hkey
  obtain rfl := List.mem_singleton.mp hkey
  refine ⟨some kind.form, fun row hrow => ?_⟩
  obtain ⟨cell, hcell, rfl⟩ := List.mem_map.mp hrow
  obtain ⟨n, hn⟩ := hwhole cell hcell
  refine ⟨congrArg some hn.form_eq, ?_⟩
  rintro other hother
  obtain rfl := Option.some.inj hother
  exact hn.isNaN_eq

theorem mem_rows_ofColumn {row : List Cell} :
    row ∈ (ofColumn cells).rows ↔ ∃ cell ∈ cells, [cell] = row := by
  rw [ofColumn, (perm_rows_sort _ _).mem_iff]
  exact List.mem_map

theorem pairwise_ofColumn
    (hwhole : ∀ cell ∈ cells, ∃ n, Cell.Whole kind cell n) :
    (ofColumn cells).rows.Pairwise fun a b => ∀ x y, a = [x] → b = [y] →
      x.compare y ≠ .gt := by
  refine (sortable_column hwhole).pairwise_sort.imp ?_
  rintro a b hle x y rfl rfl
  rwa [compareRows_singleton] at hle

end ResultSet

theorem Cell.compare_self_ne_gt (cell : Cell) : cell.compare cell ≠ .gt := by
  rw [compare, CellValue.compare_self]
  decide

namespace AggregateFunction

variable {function : AggregateFunction} {kind : Kind} {cells : List Cell}
  {values : List Int}

open ResultSet in
/-- ORDER BY puts a cell at each end that reaches as far as all others. -/
theorem exists_outermost? (function : AggregateFunction) (hcells : cells ≠ [])
    (hwhole : ∀ cell ∈ cells, ∃ n, Cell.Whole kind cell n) :
    ∃ g ∈ cells, function.outermost? cells = some [g] ∧
      ∀ cell ∈ cells, function.Reaches g cell := by
  have hsorted := pairwise_ofColumn hwhole
  have hrow : ∀ cell ∈ cells, [cell] ∈ (ofColumn cells).rows :=
    fun cell hcell => mem_rows_ofColumn.mpr ⟨cell, hcell, rfl⟩
  obtain ⟨cell, hcell⟩ := List.exists_mem_of_ne_nil cells hcells
  have hne : (ofColumn cells).rows ≠ [] := List.ne_nil_of_mem (hrow cell hcell)
  unfold outermost? Reaches
  split
  · obtain ⟨init, last, hlast⟩ := (List.eq_nil_or_concat' _).resolve_left hne
    rw [hlast] at hsorted hrow
    obtain ⟨g, hg, rfl⟩ := mem_rows_ofColumn.mp
      (hlast ▸ List.mem_append_right init List.mem_cons_self)
    refine ⟨g, hg, by simp [hlast], fun cell hcell => ?_⟩
    rcases List.mem_append.mp (hrow cell hcell) with hinit | hsame
    · exact (List.pairwise_append.mp hsorted).2.2 _ hinit _
        List.mem_cons_self _ _ rfl rfl
    · obtain rfl := List.singleton_inj.mp (List.mem_singleton.mp hsame)
      exact cell.compare_self_ne_gt
  · obtain ⟨first, rest, hfirst⟩ := List.exists_cons_of_ne_nil hne
    rw [hfirst] at hsorted hrow
    obtain ⟨g, hg, rfl⟩ := mem_rows_ofColumn.mp (hfirst ▸ List.mem_cons_self)
    refine ⟨g, hg, by simp [hfirst], fun cell hcell => ?_⟩
    rcases List.mem_cons.mp (hrow cell hcell) with hsame | hrest
    · obtain rfl := List.singleton_inj.mp hsame
      exact cell.compare_self_ne_gt
    · exact List.rel_of_pairwise_cons hsorted hrest _ _ rfl rfl

theorem pick_comm (function : AggregateFunction) (m n : Int) :
    function.pick m n = function.pick n m := by
  rw [pick, pick]
  split <;> omega

theorem pick_eq_or (function : AggregateFunction) (m n : Int) :
    function.pick m n = m ∨ function.pick m n = n := by
  rw [pick]
  split <;> omega

/-- Picking one number after the other ends with the one that is picked against
all others. -/
theorem foldl_pick_eq {g m : Int} (hg : g ∈ m :: values)
    (hpick : ∀ n ∈ m :: values, function.pick n g = g) :
    values.foldl function.pick m = g := by
  induction values generalizing m with
  | nil => exact (List.mem_singleton.mp hg).symm
  | cons n values ih =>
      rw [List.forall_mem_cons, List.forall_mem_cons] at hpick
      obtain ⟨hm, hn, hrest⟩ := hpick
      have hnext : function.pick (function.pick m n) g = g := by
        rcases function.pick_eq_or m n with heq | heq
        · rw [heq, hm]
        · rw [heq, hn]
      refine ih ?_ (List.forall_mem_cons.mpr ⟨hnext, hrest⟩)
      rcases List.mem_cons.mp hg with rfl | hmem
      · rw [pick_comm, hn]
        exact List.mem_cons_self
      · rcases List.mem_cons.mp hmem with rfl | hmem
        · rw [hm]
          exact List.mem_cons_self
        · exact List.mem_cons_of_mem _ hmem

/-- A cell that reaches as far as another one has the number that is picked of
both. -/
theorem Reaches.pick_eq {far near : Cell} {m n : Int}
    (h : function.Reaches far near) (hfar : Cell.Whole kind far m)
    (hnear : Cell.Whole kind near n) : function.pick n m = m := by
  rw [Reaches] at h
  rw [pick]
  split
  · next hmax =>
      rw [if_pos hmax] at h
      exact Int.max_eq_right (hnear.le_of_compare_ne_gt hfar h)
  · next hmin =>
      rw [if_neg hmin] at h
      exact Int.min_eq_right (hfar.le_of_compare_ne_gt hnear h)

end AggregateFunction

/-! ## The records of a group -/

namespace Accumulator

variable {function : AggregateFunction}

/-- Taking one more double picks one of two whole numbers. -/
theorem combine_ofInt (hextreme : function = .min ∨ function = .max)
    (count : Nat) {m n : Int} (hm : m.natAbs < 2 ^ 64)
    (hn : n.natAbs < 2 ^ 64) :
    combine function count (some (Float.ofInt m)) (Float.ofInt n) =
      some (Float.ofInt (function.pick m n)) := by
  have hnan := Decimal.isNaN_ofInt hm
  rcases hextreme with rfl | rfl
  · simp only [combine, hnan, Bool.false_eq_true, or_false,
      Decimal.ofInt_min hm hn]
    rfl
  · simp only [combine, hnan, Bool.false_eq_true, or_false,
      Decimal.ofInt_max hm hn]
    rfl

end Accumulator

namespace BoundColumn

variable {column : BoundColumn} {function : AggregateFunction} {kind : Kind}
variable {record : List String} {records : List (List String)} {cell : Cell}
  {cells : List Cell}
variable {tally : Tally} {n m : Int} {values : List Int}

/-- A record has a set cell in a column. -/
def Gives (column : BoundColumn) (record : List String) (cell : Cell) : Prop :=
  Cell.cast (column.raw record) column.kind = .ok cell ∧ cell.isUnset = false

theorem step_of_gives (hfunction : column.function = some function)
    (hextreme : function = .min ∨ function = .max)
    (hgives : column.Gives record cell) (hwhole : Cell.Whole kind cell n)
    (tally : Tally) :
    column.step record tally = .ok { tally with
      accumulator :=
        tally.accumulator.update function (some (Float.ofInt n)) } := by
  have hinput : numericInput (column.raw record) column.kind =
      .ok (some (Float.ofInt n)) := by
    rw [numericInput, hgives.1]
    change (if cell.isUnset = true then _ else _) = _
    rw [if_neg (by simp [hgives.2]), hwhole.toFloat?_eq]
  rw [step, hfunction]
  rcases hextreme with rfl | rfl
  · simp only [hinput]
    rfl
  · simp only [hinput]
    rfl

/-- After a first number the others are picked one after the other. -/
theorem exists_foldlM_step (hfunction : column.function = some function)
    (hextreme : function = .min ∨ function = .max)
    (hgives : List.Forall₂ column.Gives records cells)
    (hwhole : List.Forall₂ (Cell.Whole kind) cells values)
    (hsize : m.natAbs < 2 ^ 64)
    (htally : tally.accumulator.value = some (Float.ofInt m)) :
    ∃ tally', records.foldlM (fun tally record => column.step record tally)
      tally = .ok tally' ∧
      tally'.accumulator.value =
        some (Float.ofInt (values.foldl function.pick m)) := by
  induction hgives generalizing values tally m with
  | nil =>
      obtain rfl := List.forall₂_nil_left_iff.mp hwhole
      exact ⟨tally, rfl, htally⟩
  | cons hgive _ ih =>
      obtain ⟨n, rest, hn, hrest, rfl⟩ := List.forall₂_cons_left_iff.mp hwhole
      rw [List.foldlM_cons, step_of_gives hfunction hextreme hgive hn,
        List.foldl_cons]
      refine ih hrest ?_ ?_
      · rcases function.pick_eq_or m n with heq | heq
        · rw [heq]
          exact hsize
        · rw [heq]
          exact hn.natAbs_lt
      · rw [← Accumulator.combine_ofInt hextreme tally.accumulator.valid hsize
          hn.natAbs_lt, ← htally]
        rfl

/-- The extreme of the cells of a group that is not empty. -/
theorem exists_tally (hfunction : column.function = some function)
    (hextreme : function = .min ∨ function = .max)
    (hgives : List.Forall₂ column.Gives records cells)
    (hwhole : ∀ cell ∈ cells, ∃ n, Cell.Whole kind cell n) {g : Cell}
    (hg : g ∈ cells) (hreaches : ∀ cell ∈ cells, function.Reaches g cell) :
    ∃ tally n, column.tally records = .ok tally ∧ Cell.Whole kind g n ∧
      tally.accumulator.value = some (Float.ofInt n) := by
  obtain ⟨values, hvalues⟩ := List.exists_forall₂_iff.mpr hwhole
  obtain ⟨n, hn, hwholeg⟩ := List.exists_right_of_forall₂ hvalues hg
  have hpick : ∀ v ∈ values, function.pick v n = n := by
    intro v hv
    obtain ⟨cell, hcell, hwholev⟩ := List.exists_left_of_forall₂ hvalues hv
    exact (hreaches cell hcell).pick_eq hwholeg hwholev
  cases hgives with
  | nil => simp at hg
  | cons hgive hgives =>
      obtain ⟨m, rest, hm, hrest, rfl⟩ := List.forall₂_cons_left_iff.mp hvalues
      have hfirst :
          (Accumulator.update function {} (some (Float.ofInt m))).value =
          some (Float.ofInt m) := by
        rcases hextreme with rfl | rfl <;> rfl
      obtain ⟨tally, htally, hvalue⟩ := @exists_foldlM_step _ _ _ _ _
        { accumulator := Accumulator.update function {} (some (Float.ofInt m)) }
          _ _ hfunction
        hextreme hgives hrest hm.natAbs_lt hfirst
      refine ⟨tally, n, ?_, hwholeg, ?_⟩
      · rw [BoundColumn.tally, List.foldlM_cons,
          step_of_gives hfunction hextreme hgive hm]
        exact htally
      · rw [hvalue, AggregateFunction.foldl_pick_eq hn hpick]

end BoundColumn

namespace BoundSelect

variable {bound : BoundSelect} {records : List (List String)}

/-- Each column of a group has the tally of its own. -/
theorem tally_columns {tallies : List Tally}
    (h : bound.tally records = .ok tallies) :
    List.Forall₂ (fun column tally => column.tally records = .ok tally)
      bound.columns tallies := by
  induction records using List.reverseRecOn generalizing tallies with
  | nil =>
      obtain rfl := Except.ok.inj h
      rw [emptyTallies, List.forall₂_map_right_iff, List.forall₂_same]
      intro column _
      rfl
  | append_singleton seen record ih =>
      rw [tally_append_singleton] at h
      obtain ⟨before, hbefore, hadvance⟩ := Except.bind_eq_ok_iff.mp h
      refine forall₂_advance (fun column tally tally' htally hstep => ?_)
        (ih hbefore) hadvance
      unfold BoundColumn.tally at htally ⊢
      rw [List.foldlM_append, htally]
      change (column.step record tally).bind pure = _
      rw [hstep]
      rfl

/-- The cell of a row under a column. -/
theorem getElem?_finishRow {tallies : List Tally} {i : Nat}
    {column : BoundColumn} (hcolumn : bound.columns[i]? = some column)
    (h : bound.tally records = .ok tallies) :
    ∃ tally, column.tally records = .ok tally ∧
      (bound.finishRow tallies)[i]? = some (column.finish tally) := by
  have htallies := tally_columns h
  obtain ⟨hi, rfl⟩ := List.getElem?_eq_some_iff.mp hcolumn
  have hi' : i < tallies.length := htallies.length_eq ▸ hi
  refine ⟨tallies[i], htallies.get hi hi', ?_⟩
  rw [finishRow, List.getElem?_zipWith, List.getElem?_eq_getElem hi,
    List.getElem?_eq_getElem hi']

/-- In a column of integers, days or moments MIN and MAX give for every group
whose values are all set what they make of the cell that ORDER BY puts at their
end, which no other cell of the group exceeds. An integer is given back exactly
when it is a double, and a day always. -/
theorem extremes_of_aggregate
    (hclean : ∀ record ∈ records, bound.fault? record = none) {i : Nat}
    {column : BoundColumn} (hcolumn : bound.columns[i]? = some column)
    {function : AggregateFunction}
    (hfunction : column.function = some function)
    (hextreme : function = .min ∨ function = .max)
    (hkind : Kind.ofTag column.kind = .int ∨
      (Kind.ofTag column.kind).isCalendar = true) :
    ∃ rows, bound.aggregate records = .ok rows ∧
      List.Forall₂
        (fun key row => ∀ cells,
          List.Forall₂ column.Gives (bound.recordsOf key records) cells →
          ∃ g ∈ cells, function.outermost? cells = some [g] ∧
            (∀ cell ∈ cells, function.Reaches g cell) ∧
              row[i]? = some g.asExtreme ∧
            (∀ n, g.value = .int (some n) →
              (Decimal.Denotes (Float.ofInt n) n ↔ Decimal.IsDouble n)) ∧
            (Kind.ofTag column.kind = .date → g.asExtreme.value = g.value))
        (bound.keysOf records) rows := by
  obtain ⟨rows, hrows⟩ := (bound.exists_aggregate_eq_ok_iff records).mpr hclean
  have hkeeps : bound.keepsRecords = false :=
    keepsRecords_of_function (List.mem_of_getElem? hcolumn)
      (by simp [hfunction])
  refine ⟨rows, hrows, forall₂_rows_of_tallies hkeeps hrows ?_⟩
  intro key hkey tallies htallies cells hgives
  have hwhole : ∀ cell ∈ cells, ∃ n,
      Cell.Whole (Kind.ofTag column.kind) cell n := by
    intro cell hcell
    obtain ⟨record, -, hgive⟩ := List.exists_left_of_forall₂ hgives hcell
    exact Cell.exists_whole_of_cast hgive.1 hgive.2 hkind
  have hne : cells ≠ [] := by
    rintro rfl
    exact recordsOf_ne_nil hkey (List.forall₂_nil_right_iff.mp hgives)
  obtain ⟨g, hg, houtermost, hreaches⟩ := function.exists_outermost? hne hwhole
  obtain ⟨tally, n, htally, hn, hvalue⟩ :=
    BoundColumn.exists_tally hfunction hextreme hgives hwhole hg hreaches
  obtain ⟨tally', htally', hcell⟩ := getElem?_finishRow hcolumn htallies
  obtain rfl := Except.ok.inj (htally.symm.trans htally')
  refine ⟨g, hg, houtermost, hreaches, ?_, ?_, ?_⟩
  · rw [hcell, BoundColumn.finish, hfunction]
    exact congrArg some (hn.finish_eq hextreme hvalue)
  · intro k hk
    obtain rfl := hn.eq_of_int hk
    exact Decimal.denotes_ofInt_iff hn.natAbs_lt
  · intro hdate
    rw [hdate] at hn
    exact hn.value_asExtreme

/-- A report of runs. -/
def runCatalog : Catalog where
  version := "v1"
  tables := [
    { name := "RUNS"
      aggregateColumn := "Id"
      columns :=
        [{ name := "Id", kind := "LONG" },
          { name := "Ended", kind := "DATETIME" }] }]

/-- `SELECT MAX(Id), MAX(Ended) FROM RUNS` -/
def lastRun : Select where
  items := [{ column := { name := "Id" }, function := some .max },
    { column := { name := "Ended" }, function := some .max }]
  source := "RUNS"

/-- The statement bound to its report. -/
def boundLastRun : BoundSelect :=
  Plan.boundSelect lastRun runCatalog.tables[0] runCatalog.tables[0].columns

/-- The greater of two numbers of runs. -/
theorem extremes_of_aggregate_lastRun :
    (∀ record ∈ [["4", " --"], ["7", "2017/01/01 00:00:00"]],
      boundLastRun.fault? record = none) ∧
    boundLastRun.columns[0]? = some boundLastRun.columns[0] ∧
    boundLastRun.columns[0].function = some .max ∧
    Kind.ofTag boundLastRun.columns[0].kind = .int ∧
    ∃ row, boundLastRun.aggregate [["4", " --"], ["7", "2017/01/01 00:00:00"]] =
      .ok [row] ∧ row[0]? = some (Cell.float (some (Float.ofInt 7)) 0) ∧
      Decimal.Denotes (Float.ofInt 7) 7 := by
  have hclean : ∀ record ∈ [["4", " --"], ["7", "2017/01/01 00:00:00"]],
      boundLastRun.fault? record = none := by
    decide
  have hkind : Kind.ofTag boundLastRun.columns[0].kind = .int := by decide
  refine ⟨hclean, rfl, rfl, hkind, ?_⟩
  obtain ⟨rows, hrows, hgroups⟩ :=
    @extremes_of_aggregate _ _ hclean 0 boundLastRun.columns[0] rfl
    .max rfl (.inr rfl) (.inl hkind)
  have hkeys : boundLastRun.keysOf [["4", " --"],
      ["7", "2017/01/01 00:00:00"]] = [[]] := by
    decide
  rw [hkeys] at hgroups
  obtain ⟨row, rest, hrow, hrest, rfl⟩ := List.forall₂_cons_left_iff.mp hgroups
  obtain rfl := List.forall₂_nil_left_iff.mp hrest
  have hrecords : boundLastRun.recordsOf [] [["4", " --"],
      ["7", "2017/01/01 00:00:00"]] =
      [["4", " --"], ["7", "2017/01/01 00:00:00"]] := by
    decide
  rw [hrecords] at hrow
  have hfour : boundLastRun.columns[0].Gives ["4", " --"]
      { value := .int (some 4) } := ⟨rfl, rfl⟩
  have hseven : boundLastRun.columns[0].Gives ["7", "2017/01/01 00:00:00"]
    { value := .int (some 7) } := ⟨rfl, rfl⟩
  obtain ⟨g, hg, -, hreaches, hcell, hexact, -⟩ :=
    hrow _ (.cons hfour (.cons hseven .nil))
  have hgreatest : g = { value := .int (some 7) } := by
    rcases List.mem_cons.mp hg with rfl | hg
    · exact absurd rfl (hreaches _ (List.mem_cons_of_mem _ List.mem_cons_self))
    · exact List.mem_singleton.mp hg
  subst hgreatest
  exact ⟨row, hrows, hcell,
    (hexact 7 rfl).mpr (Decimal.isDouble_of_natAbs_le (by decide))⟩

/-- An integer that is no double and a leap second are not given back. -/
theorem aggregate_lastRun :
    Plan.bind runCatalog lastRun = .ok boundLastRun ∧
    (Cell.cast "9007199254740993" "LONG").toOption.map Cell.render =
      some "9007199254740993" ∧
    (Cell.cast "2016/12/31 23:59:60" "DATETIME").toOption.map Cell.render =
      some "2016/12/31 23:59:60" ∧
    (boundLastRun.aggregate
      [["9007199254740993", "2016/12/31 23:59:60"]]).toOption.map
      (fun rows => rows.map (List.map Cell.render)) =
        some [["9007199254740992", "2016/12/31 23:59:59"]] := by
  exact ⟨by decide, by decide, by decide, by decide⟩

end BoundSelect

end ReportQuery
