import ReportQuery.Proofs.Plan.Conditions
import ReportQuery.Report.ResultSet

/-!
# Rows within the limits of views

A LIMIT clause keeps a window of the rows of a result. Going down a chain of
views the offset becomes the greatest of all and the count the smallest of all,
each for itself. So a view gives no row before its window and no more rows than
it keeps. The windows are not intersected, though: one that begins later than
the view's may reach over its end.
-/

namespace ReportQuery

/-- Whether a clause keeps the row at an index. -/
def Limit.Contains (limit : Limit) (index : Nat) : Prop :=
  limit.offset ≤ index ∧ index < limit.offset + limit.count

instance (limit : Limit) (index : Nat) : Decidable (limit.Contains index) :=
  inferInstanceAs (Decidable (_ ∧ _))

/-- The rows of a page are those that its clause keeps, in their order. -/
theorem ResultSet.getElem?_paginate (limit : Limit) (set : ResultSet) (i : Nat)
    (row : List Cell) :
    (set.paginate limit).rows[i]? = some row ↔
      limit.Contains (limit.offset + i) ∧
        set.rows[limit.offset + i]? = some row := by
  simp only [ResultSet.paginate, List.getElem?_take, List.getElem?_drop,
    Limit.Contains]
  split
  · next hlt => simp [hlt]
  · next hge => simp [hge]

/-- A window that begins no earlier than another lies within it when it is
empty or ends no later. -/
theorem Limit.forall_contains_iff {limit shown : Limit}
    (hoffset : shown.offset ≤ limit.offset) :
    (∀ index, limit.Contains index → shown.Contains index) ↔
      limit.count = 0 ∨ limit.offset + limit.count ≤
        shown.offset + shown.count := by
  unfold Contains
  constructor
  · intro h
    by_contra hbeyond
    have hlast := h (limit.offset + limit.count - 1) (by omega)
    omega
  · intro h index hindex
    omega

namespace Plan

/-- The LIMIT clauses of a statement and of the views of a chain. -/
def limitsAlong (path : List Table) (own : Option Limit) : List Limit :=
  own.toList ++ path.filterMap fun table => table.view.bind View.limit

theorem limitsAlong_cons {table : Table} {view : View}
    (hview : table.view = some view) (path : List Table) (own : Option Limit) :
    limitsAlong (table :: path) own =
      own.toList ++ (view.limit.toList ++ limitsAlong path none) := by
  cases hlimit : view.limit <;> simp [limitsAlong, hview, hlimit]

theorem mem_limitsAlong_of_view {path : List Table} {table : Table}
    {view : View} {shown : Limit} (htable : table ∈ path)
    (hview : table.view = some view) (hshown : view.limit = some shown)
    (own : Option Limit) : shown ∈ limitsAlong path own := by
  refine List.mem_append_right _ (List.mem_filterMap.mpr ⟨table, htable, ?_⟩)
  rw [hview, Option.bind_some, hshown]

/-! ## One view -/

/-- Merging takes the greatest offset of the clauses, whatever other clauses
there are. -/
theorem max?_offset_mergeLimit (own shown : Option Limit) (rest : List Limit) :
    (((mergeLimit own shown).toList ++ rest).map Limit.offset).max? =
      ((own.toList ++ (shown.toList ++ rest)).map Limit.offset).max? := by
  cases own with
  | none => cases shown <;> rfl
  | some own => cases shown <;> rfl

theorem min?_count_mergeLimit (own shown : Option Limit) (rest : List Limit) :
    (((mergeLimit own shown).toList ++ rest).map Limit.count).min? =
      ((own.toList ++ (shown.toList ++ rest)).map Limit.count).min? := by
  cases own with
  | none => cases shown <;> rfl
  | some own => cases shown <;> rfl

/-! ## Whole chains -/

/-- The unfolded clause has the greatest offset and the smallest count of all
clauses. -/
theorem limit_unfoldWithin {catalog : Catalog} {today : Day} {depth : Nat}
    {s r : Select} (h : unfoldWithin catalog today depth s = .ok r) :
    ∃ path, catalog.ViewPath s.source path r.source ∧
      r.limit.map Limit.offset =
        ((limitsAlong path s.limit).map Limit.offset).max? ∧
      r.limit.map Limit.count =
        ((limitsAlong path s.limit).map Limit.count).min? := by
  refine unfoldWithin_viewPath (fun path s =>
    r.limit.map Limit.offset =
      ((limitsAlong path s.limit).map Limit.offset).max? ∧
      r.limit.map Limit.count =
      ((limitsAlong path s.limit).map Limit.count).min?) ?_ ?_ h
  · cases r.limit <;> exact ⟨rfl, rfl⟩
  · rintro s table view merged path hview hmerge ⟨hoffset, hcount⟩
    obtain ⟨blocks, conditions, during, -, -, -, rfl⟩ :=
      merge_eq_ok_iff.mp hmerge
    rw [limitsAlong_cons hview]
    exact ⟨hoffset.trans (max?_offset_mergeLimit s.limit view.limit
      (limitsAlong path none)),
      hcount.trans (min?_count_mergeLimit s.limit view.limit
        (limitsAlong path none))⟩

/-- An unfolded statement has a LIMIT clause when it or a view of its chain has
one: with the greatest of their offsets and the smallest of their counts. Its
window begins no earlier than that of a view and is no longer; it lies within
the view's exactly when it is empty or ends no later. -/
theorem limit_of_unfold {catalog : Catalog} {today : Day} {s r : Select}
    (h : unfold catalog today s = .ok r) :
    ∃ path, catalog.ViewPath s.source path r.source ∧
      r.limit.map Limit.offset =
        ((limitsAlong path s.limit).map Limit.offset).max? ∧
      r.limit.map Limit.count =
        ((limitsAlong path s.limit).map Limit.count).min? ∧
      ∀ table ∈ path, ∀ view ∈ table.view, ∀ shown ∈ view.limit,
        ∃ limit, r.limit = some limit ∧ shown.offset ≤ limit.offset ∧
          limit.count ≤ shown.count ∧
          ((∀ index, limit.Contains index → shown.Contains index) ↔
            limit.count = 0 ∨ limit.offset + limit.count ≤
              shown.offset + shown.count) := by
  obtain ⟨path, hpath, hoffset, hcount⟩ := limit_unfoldWithin h
  refine ⟨path, hpath, hoffset, hcount, ?_⟩
  intro table htable view hview shown hshown
  have hmem := mem_limitsAlong_of_view htable hview hshown s.limit
  cases hlimit : r.limit with
  | none =>
      rw [hlimit, Option.map_none, eq_comm, List.max?_eq_none_iff,
        List.map_eq_nil_iff] at hoffset
      simp [hoffset] at hmem
  | some limit =>
      rw [hlimit, Option.map_some, eq_comm] at hoffset hcount
      have hlater := (List.max?_eq_some_iff.mp hoffset).2 _
        (List.mem_map_of_mem hmem)
      have hfewer := (List.min?_eq_some_iff.mp hcount).2 _
        (List.mem_map_of_mem hmem)
      exact ⟨limit, rfl, hlater, hfewer, Limit.forall_contains_iff hlater⟩

/-- A report of runs, a view of the second and the third, and a view of what
that one begins with. -/
def runCatalog : Catalog where
  version := "v1"
  tables := [
    { name := "RUNS", aggregateColumn := "Id",
      columns := [{ name := "Id", kind := "LONG" }] },
    { name := "page"
      aggregateColumn := "Id"
      columns := [{ name := "Id", kind := "LONG" }]
      view := some { source := "RUNS", primaryKey := "Id",
                     limit := some ⟨1, 2⟩ } },
    { name := "top"
      aggregateColumn := "Id"
      columns := [{ name := "Id", kind := "LONG" }]
      view := some { source := "page", primaryKey := "Id",
                     limit := some ⟨0, 5⟩ } }]

/-- The first ten rows of the upper view. -/
def topSelect : Select where
  items := [{ column := { name := "Id" } }]
  source := "top"
  limit := some ⟨0, 10⟩

theorem limit_of_unfold_topSelect :
    ∃ r path, unfold runCatalog Day.epoch topSelect = .ok r ∧
      r.limit = some ⟨1, 2⟩ ∧ runCatalog.ViewPath "top" path r.source ∧
      ((limitsAlong path topSelect.limit).map Limit.offset).max? = some 1 ∧
      ((limitsAlong path topSelect.limit).map Limit.count).min? = some 2 ∧
      ∀ table ∈ path, ∀ view ∈ table.view, ∀ shown ∈ view.limit,
        3 ≤ shown.offset + shown.count →
        ∀ index, Limit.Contains ⟨1, 2⟩ index → shown.Contains index := by
  have hlimit : (unfold runCatalog Day.epoch topSelect).toOption.map
      Select.limit = some (some ⟨1, 2⟩) := by
    decide +kernel
  cases hr : unfold runCatalog Day.epoch topSelect with
  | error error => simp [hr] at hlimit
  | ok r =>
      rw [hr] at hlimit
      have hclause : r.limit = some ⟨1, 2⟩ := Option.some.inj hlimit
      obtain ⟨path, hpath, hoffset, hcount, hwithin⟩ := limit_of_unfold hr
      rw [hclause] at hoffset hcount
      refine ⟨r, path, rfl, hclause, hpath, hoffset.symm, hcount.symm, ?_⟩
      intro table htable view hview shown hshown hend
      obtain ⟨limit, hsame, -, -, hiff⟩ :=
        hwithin table htable view hview shown hshown
      obtain rfl := Option.some.inj (hclause.symm.trans hsame)
      exact hiff.mpr (.inr hend)

/-- Two rows from the third on of the lower view, which has one of them. -/
def laterSelect : Select where
  items := [{ column := { name := "Id" } }]
  source := "page"
  limit := some ⟨2, 2⟩

/-- The statement is given the fourth row of the report, which is none of the
view. -/
theorem not_contains_of_unfold_laterSelect :
    parseStatement "SELECT Id FROM page LIMIT 2, 2" =
      .ok (.select laterSelect) ∧
      runCatalog.ViewPath "page" [runCatalog.tables[1]] "RUNS" ∧
      (unfold runCatalog Day.epoch laterSelect).toOption.map Select.limit =
        some (some ⟨2, 2⟩) ∧
      (runCatalog.tables[1].view.bind View.limit) = some ⟨1, 2⟩ ∧
      Limit.Contains ⟨2, 2⟩ 3 ∧ ¬ Limit.Contains ⟨1, 2⟩ 3 ∧
      ∀ (set : ResultSet) (row : List Cell), set.rows[3]? = some row →
        (set.paginate ⟨2, 2⟩).rows[1]? = some row := by
  have hruns : runCatalog.table? "RUNS" = some runCatalog.tables[0] := by
    decide +kernel
  have hpage : runCatalog.table? "page" = some runCatalog.tables[1] := by
    decide +kernel
  refine ⟨by decide +kernel,
    .view hpage rfl (.report hruns rfl), by decide +kernel, rfl, by
    decide, by decide, ?_⟩
  intro set row hrow
  exact (ResultSet.getElem?_paginate ⟨2, 2⟩ set 1 row).mpr ⟨by decide, hrow⟩

end Plan

end ReportQuery
