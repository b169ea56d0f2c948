import ReportQuery.Proofs.Cell.Comparison
import ReportQuery.Proofs.Sorting

/-!
# The order of rows

A result set is sorted by any number of keys. Each key orders the rows by one
column, ascending or descending, and decides the ties of the keys before it.
Rows that tie under all keys keep the order they had, whichever way the keys
run, so that sorting by several keys is sorting by one after the other, the
last key first.

A set is a rectangular matrix: a column is in every row or, when a key points
beyond the last column, in none. The cells of a column are of one form and,
without NaN, totally preordered, and nothing else is needed.
-/

namespace ReportQuery

namespace SortKey

/-- The cells of two rows in the column of a key, as far as there are any, are
equal. -/
def Ties (key : SortKey) (a b : List Cell) : Prop :=
  ∀ x ∈ a[key.index]?, ∀ y ∈ b[key.index]?, x.compare y = .eq

instance (key : SortKey) (a b : List Cell) : Decidable (key.Ties a b) :=
  inferInstanceAs (Decidable (∀ x ∈ a[key.index]?, ∀ y ∈ b[key.index]?,
    x.compare y = .eq))

/-- The cell of the first row is less than that of the second one, greater if
the key descends. -/
def Before (key : SortKey) (a b : List Cell) : Prop :=
  ∃ x ∈ a[key.index]?, ∃ y ∈ b[key.index]?, x.compare y =
    if key.descending then .gt else .lt

/-- The first row may stand before the second one in the lexicographic order of
the keys. -/
def InOrder : List SortKey → List Cell → List Cell → Prop
  | [], _, _ => True
  | key :: keys, a, b => key.Before a b ∨ (key.Ties a b ∧ InOrder keys a b)

end SortKey

namespace ResultSet

variable {key : SortKey} {keys : List SortKey} {a b : List Cell}
  {set : ResultSet}

/-- In the column of each key the cells are of one form and none is NaN, or no
row has the column. -/
def Sortable (keys : List SortKey) (set : ResultSet) : Prop :=
  ∀ key ∈ keys, ∃ column : Option CellForm, ∀ row ∈ set.rows,
    row[key.index]?.map (·.value.form) = column ∧
      ∀ cell ∈ row[key.index]?, cell.value.isNaN = false

/-! ## What the comparison of two rows means -/

theorem compareKey_eq_eq_iff : compareKey key a b = .eq ↔ key.Ties a b := by
  rw [compareKey, SortKey.Ties]
  cases a[key.index]? with
  | none => simp
  | some x =>
      cases b[key.index]? with
      | none => simp
      | some y => cases key.descending <;> simp

theorem compareKey_eq_lt_iff : compareKey key a b = .lt ↔ key.Before a b := by
  rw [compareKey, SortKey.Before]
  cases a[key.index]? with
  | none => simp
  | some x =>
      cases b[key.index]? with
      | none => simp
      | some y => cases key.descending <;> simp

theorem compareRows_cons :
    compareRows (key :: keys) a b =
      (compareKey key a b).then (compareRows keys a b) := rfl

theorem compareRows_singleton (key : SortKey) :
    compareRows [key] = compareKey key := by
  funext a b
  exact Ordering.then_eq

theorem compareRows_ne_gt_iff :
    compareRows keys a b ≠ .gt ↔ SortKey.InOrder keys a b := by
  induction keys with
  | nil => simp [compareRows, SortKey.InOrder]
  | cons key keys ih =>
      rw [compareRows_cons, SortKey.InOrder, ← ih, ← compareKey_eq_lt_iff,
        ← compareKey_eq_eq_iff]
      cases compareKey key a b <;> simp

theorem compareRows_eq_eq_iff :
    compareRows keys a b = .eq ↔ ∀ key ∈ keys, key.Ties a b := by
  induction keys with
  | nil => simp [compareRows]
  | cons key keys ih =>
      rw [compareRows_cons, Ordering.then_eq_eq, ih, compareKey_eq_eq_iff,
        List.forall_mem_cons]

/-! ## The rows of a sortable set -/

theorem ordersOn_compareKey (key : SortKey) (column : Option CellForm) :
    OrdersOn (fun row : List Cell =>
      row[key.index]?.map (·.value.form) = column ∧
      ∀ cell ∈ row[key.index]?, cell.value.isNaN = false) (compareKey key) := by
  cases column with
  | none =>
      refine OrdersOn.const_eq.congr fun a b ha _ => ?_
      simp [compareKey, Option.map_eq_none_iff.mp ha.1]
  | some form =>
      have hcells :=
        (((CellValue.ordersOn_compare form).comap Cell.value).options.comap
        fun row : List Cell => row[key.index]?).mono
        (Q := fun row : List Cell =>
          row[key.index]?.map (·.value.form) = some form ∧
          ∀ cell ∈ row[key.index]?, cell.value.isNaN = false) ?_
      · cases hdescending : key.descending with
        | false =>
            refine hcells.congr fun a b ha hb => ?_
            obtain ⟨x, hx, -⟩ := Option.map_eq_some_iff.mp ha.1
            obtain ⟨y, hy, -⟩ := Option.map_eq_some_iff.mp hb.1
            simp [compareKey, hx, hy, hdescending, CellValue.compareOptions,
              Cell.compare]
        | true =>
            refine hcells.reverse.congr fun a b ha hb => ?_
            obtain ⟨x, hx, -⟩ := Option.map_eq_some_iff.mp ha.1
            obtain ⟨y, hy, -⟩ := Option.map_eq_some_iff.mp hb.1
            simp [compareKey, hx, hy, hdescending, CellValue.compareOptions,
              Cell.compare]
      · intro row hrow cell hcell
        refine ⟨?_, hrow.2 cell hcell⟩
        rw [Option.mem_def.mp hcell] at hrow
        exact Option.some.inj hrow.1

theorem ordersOn_compareRows {P : List Cell → Prop}
    (h : ∀ key ∈ keys, OrdersOn P (compareKey key)) :
    OrdersOn P (compareRows keys) := by
  induction keys with
  | nil => exact OrdersOn.const_eq
  | cons key keys ih =>
      rw [List.forall_mem_cons] at h
      exact h.1.lex (ih h.2)

namespace Sortable

theorem ordersOn_key (h : set.Sortable keys) (hkey : key ∈ keys) :
    OrdersOn (· ∈ set.rows) (compareKey key) := by
  obtain ⟨column, hcolumn⟩ := h key hkey
  exact (ordersOn_compareKey key column).mono hcolumn

theorem ordersOn (h : set.Sortable keys) :
    OrdersOn (· ∈ set.rows) (compareRows keys) :=
  ordersOn_compareRows fun _ => h.ordersOn_key

theorem tail (h : set.Sortable (key :: keys)) : set.Sortable keys :=
  fun key hkey => h key (List.mem_cons_of_mem _ hkey)

theorem pairwise_sort (h : set.Sortable keys) :
    (set.sort keys).rows.Pairwise fun a b => compareRows keys a b ≠ .gt :=
  h.ordersOn.pairwise_mergeSort fun _ => id

/-- Sorting by several keys is sorting by one after the other, the last one
first. -/
theorem sort_eq_foldr (h : set.Sortable keys) :
    set.sort keys = keys.foldr (fun key set => set.sort [key]) set := by
  induction keys with
  | nil =>
      have hsorted : set.rows.mergeSort (fun a b => compareRows [] a b != .gt) =
          set.rows :=
        List.mergeSort_of_pairwise (List.pairwise_of_forall fun _ _ => rfl)
      rw [sort, hsorted, List.foldr_nil]
  | cons key keys ih =>
      have hlex := (h.ordersOn_key List.mem_cons_self).mergeSort_lex
        h.tail.ordersOn fun _ => id
      rw [List.foldr_cons, ← ih h.tail, sort, sort, sort,
        compareRows_singleton, ← hlex]
      rfl

end Sortable

/-- Sorting by the keys rearranges the rows so that each is in order with all
that follow; rows that tie under all keys keep their order. It is sorting by
one key after the other, the last one first, and doing it again changes
nothing. -/
theorem sort_of_sortable (h : set.Sortable keys) :
    (set.sort keys).rows.Perm set.rows ∧
    (set.sort keys).rows.Pairwise (SortKey.InOrder keys) ∧
    (∀ row ∈ set.rows,
      ((set.sort keys).rows.filter fun other =>
        decide (∀ key ∈ keys, key.Ties row other)) =
        set.rows.filter fun other =>
          decide (∀ key ∈ keys, key.Ties row other)) ∧
    set.sort keys = keys.foldr (fun key set => set.sort [key]) set ∧
    (set.sort keys).sort keys = set.sort keys := by
  refine ⟨perm_rows_sort keys set, ?_, ?_, h.sort_eq_foldr, ?_⟩
  · exact h.pairwise_sort.imp compareRows_ne_gt_iff.mp
  · intro row hrow
    have hties := h.ordersOn.filter_mergeSort (fun _ => id) hrow
    have hsame : (fun other => decide (∀ key ∈ keys, key.Ties row other)) =
        fun other => compareRows keys row other == .eq := by
      funext other
      rw [Bool.eq_iff_iff, decide_eq_true_iff, beq_iff_eq,
        compareRows_eq_eq_iff]
    rw [hsame]
    exact hties
  · have hagain : (set.sort keys).rows.mergeSort
        (fun a b => compareRows keys a b != .gt) = (set.sort keys).rows :=
      List.mergeSort_of_pairwise (h.pairwise_sort.imp bne_iff_ne.mpr)
    rw [sort, hagain]

/-- Sums of money by town, one of them unset. -/
def townSums : ResultSet :=
  let row (town : String) (sum : Option Int) : List Cell :=
    [{ value := .text (some town) }, { value := .int sum }]
  ofRows ["Town", "Sum"]
    [row "Rome" (some 2), row "Oslo" none, row "Rome" none, row "Oslo" (some 2)]

/-- The sum descending, then a column that is not there, the town, and the sum
ascending. -/
def townKeys : List SortKey := [⟨1, true⟩, ⟨5, false⟩, ⟨0, false⟩, ⟨1, false⟩]

theorem sort_of_sortable_townSums :
    townSums.Sortable townKeys ∧
    (townSums.sort townKeys).rows.Perm townSums.rows ∧
    (townSums.sort townKeys).rows.Pairwise (SortKey.InOrder townKeys) ∧
    townSums.sort townKeys = townKeys.foldr
      (fun key set => set.sort [key]) townSums ∧
    (townSums.sort townKeys).sort townKeys = townSums.sort townKeys := by
  have hsortable : townSums.Sortable townKeys := by
    simp only [Sortable, townKeys, List.forall_mem_cons]
    refine ⟨⟨some .int, ?_⟩, ⟨none, ?_⟩, ⟨some .text, ?_⟩,
      ⟨some .int, ?_⟩, by simp⟩ <;>
      simp [townSums, ofRows, withWidths, CellValue.form, CellValue.isNaN]
  obtain ⟨hperm, horder, -, hkeys, hagain⟩ := sort_of_sortable hsortable
  exact ⟨hsortable, hperm, horder, hkeys, hagain⟩

end ResultSet

end ReportQuery
