import ReportQuery.Proofs.Report.Counting

/-!
# Which records share a row

With GROUP BY a record is folded into the row of its key, the list of the
hashes of its grouped values. The values themselves are not compared, so
records share a row exactly when the hashes of their grouped values are equal.
Records with equal values always do. Different values of one hash share a row
too, and there are such values.
-/

namespace ReportQuery

namespace BoundSelect

variable {bound : BoundSelect} {record : List String}
  {records : List (List String)}

/-- The place of the group that takes a record: that of its key, or behind all
others. -/
def place (bound : BoundSelect) (groups : List Group) (record : List String) :
    Nat :=
  (groups.map Group.key).idxOf (bound.groupKey record)

/-- The number of the row that a record is folded into, given the records
before it. -/
def rowNumber (bound : BoundSelect) (seen : List (List String))
    (record : List String) : Except QueryError Nat :=
  (seen.foldlM (fun groups record => bound.addRecord record groups) []).map
    fun groups => bound.place groups record

/-- The group of a record keeps its place while more records are read. -/
theorem rowNumber_eq (bound : BoundSelect) (seen : List (List String))
    (record : List String) (after : List (List String))
    (h : seen.findSome? bound.fault? = none) :
    bound.rowNumber seen record =
      .ok ((bound.keysOf (seen ++ record :: after)).idxOf
        (bound.groupKey record)) := by
  obtain ⟨herror, hgrouped⟩ := bound.foldlM_addRecord_spec seen
  cases hfold : seen.foldlM (fun groups record => bound.addRecord record groups)
    [] with
  | error e =>
      rw [herror e, h] at hfold
      simp at hfold
  | ok groups =>
      rw [rowNumber, hfold, keysOf, List.map_append, List.map_cons,
        List.idxOf_eraseDups_append]
      exact congrArg
        (fun keys => Except.ok (List.idxOf (bound.groupKey record) keys))
        (hgrouped groups hfold).keys

theorem groupKey_eq_iff (hgroupBy : bound.groupBy ≠ [])
    (first second : List String) :
    bound.groupKey first = bound.groupKey second ↔
      ∀ i ∈ bound.groupBy, ∀ column ∈ bound.columns[i]?,
        Hash.ofText (column.raw first) = Hash.ofText (column.raw second) := by
  have hcolumns : bound.keyColumns =
      bound.groupBy.filterMap fun i => bound.columns[i]? := by
    rw [keyColumns, if_neg (by simpa using hgroupBy)]
  rw [groupKey, groupKey, List.map_inj_left, hcolumns]
  constructor
  · intro h i hi column hcolumn
    exact h column (List.mem_filterMap.mpr ⟨i, hi, hcolumn⟩)
  · intro h column hcolumn
    obtain ⟨i, hi, hcolumn⟩ := List.mem_filterMap.mp hcolumn
    exact h i hi column hcolumn

/-- With GROUP BY every record has a row, the one that the records with its key
give alone. Another record has the same row exactly when the hashes of the raw
values of all grouped columns are equal in both. -/
theorem rowNumber_of_groupBy (hgroupBy : bound.groupBy ≠ [])
    {rows : List (List Cell)} (hrows : bound.aggregate records = .ok rows)
    {i : Nat} (hrecord : records[i]? = some record) :
    ∃ n row, bound.rowNumber (records.take i) record = .ok n ∧
      rows[n]? = some row ∧
      bound.aggregate (bound.recordsOf (bound.groupKey record) records) =
        .ok [row] ∧
      ∀ (j : Nat) (other : List String), records[j]? = some other →
        (bound.rowNumber (records.take j) other = .ok n ↔
          ∀ k ∈ bound.groupBy, ∀ column ∈ bound.columns[k]?,
            Hash.ofText (column.raw record) =
              Hash.ofText (column.raw other)) := by
  have hkeeps : bound.keepsRecords = false := by simp [keepsRecords, hgroupBy]
  have hclean := (bound.exists_aggregate_eq_ok_iff records).mp ⟨rows, hrows⟩
  have hnumber : ∀ (j : Nat) (other : List String), records[j]? = some other →
      bound.groupKey other ∈ bound.keysOf records ∧
      bound.rowNumber (records.take j) other =
        .ok ((bound.keysOf records).idxOf (bound.groupKey other)) := by
    intro j other hother
    obtain ⟨hj, rfl⟩ := List.getElem?_eq_some_iff.mp hother
    refine ⟨mem_keysOf.mpr ⟨_, List.getElem_mem hj, rfl⟩, ?_⟩
    have hsplit : records.take j ++ records[j] :: records.drop (j + 1) =
        records := by
      rw [List.getElem_cons_drop, List.take_append_drop]
    have hnone : (records.take j).findSome? bound.fault? = none :=
      List.findSome?_eq_none_iff.mpr fun other hmem =>
        hclean other (List.mem_of_mem_take hmem)
    rw [bound.rowNumber_eq _ _ (records.drop (j + 1)) hnone, hsplit]
  obtain ⟨hmem, hn⟩ := hnumber i record hrecord
  have hgroups := aggregate_groups hkeeps hrows
  have hlt := List.idxOf_lt_length_of_mem hmem
  have hlt' : (bound.keysOf records).idxOf (bound.groupKey record) <
      rows.length :=
    hgroups.length_eq ▸ hlt
  have hrow := hgroups.get hlt hlt'
  simp only [List.get_eq_getElem, List.getElem_idxOf] at hrow
  refine ⟨_, _, hn, List.getElem?_eq_getElem hlt', hrow, ?_⟩
  intro j other hother
  obtain ⟨hmem', hn'⟩ := hnumber j other hother
  rw [hn', Except.ok.injEq, List.idxOf_inj hmem', ← groupKey_eq_iff hgroupBy]
  exact eq_comm

/-- Of three sales the last one joins the first, which is in the same city. -/
theorem rowNumber_of_groupBy_salesByCity :
    boundSalesByCity.groupBy ≠ [] ∧
    ∃ rows n row,
      boundSalesByCity.aggregate [["Rome", "1"], ["Oslo", "2"], ["Rome", "3"]] =
        .ok rows ∧
      rows[n]? = some row ∧
      boundSalesByCity.aggregate [["Rome", "1"], ["Rome", "3"]] = .ok [row] ∧
      boundSalesByCity.rowNumber [["Rome", "1"], ["Oslo", "2"]] ["Rome", "3"] =
        .ok n ∧
      boundSalesByCity.rowNumber [] ["Rome", "1"] = .ok n ∧
      boundSalesByCity.rowNumber [["Rome", "1"]] ["Oslo", "2"] ≠ .ok n := by
  have hgroupBy : boundSalesByCity.groupBy ≠ [] := by decide
  obtain ⟨rows, hrows⟩ := (boundSalesByCity.exists_aggregate_eq_ok_iff
    [["Rome", "1"], ["Oslo", "2"], ["Rome", "3"]]).mpr (by decide)
  obtain ⟨n, row, hn, hrow, halone, hothers⟩ :=
    @rowNumber_of_groupBy _ ["Rome", "3"] _ hgroupBy _ hrows 2 rfl
  refine ⟨hgroupBy, rows, n, row, hrows, hrow, ?_, hn, ?_, ?_⟩
  · rw [← halone]
    exact congrArg boundSalesByCity.aggregate (by decide)
  · exact (hothers 0 _ rfl).mpr (by decide)
  · rw [Ne, show [["Rome", "1"]] =
      [["Rome", "1"], ["Oslo", "2"], ["Rome", "3"]].take 1 from rfl,
      hothers 1 ["Oslo", "2"] rfl]
    decide

/-- The hash does not tell two cities apart, so the sales of both are in one
row. -/
theorem rowNumber_salesByCity_collision :
    "8yn0iYCKYHlIj4-BwPqk" ≠ "GReLUrM4wMqfg9yzV3KQ" ∧
    Plan.bind salesCatalog salesByCity = .ok boundSalesByCity ∧
    boundSalesByCity.groupBy ≠ [] ∧
    boundSalesByCity.rowNumber [] ["8yn0iYCKYHlIj4-BwPqk", "1"] = .ok 0 ∧
    boundSalesByCity.rowNumber [["8yn0iYCKYHlIj4-BwPqk", "1"]]
      ["GReLUrM4wMqfg9yzV3KQ", "2"] = .ok 0 ∧
    salesShown "SELECT City, MAX(Amount) FROM SALES GROUP BY City"
      [["8yn0iYCKYHlIj4-BwPqk", "1"], ["GReLUrM4wMqfg9yzV3KQ", "2"]] =
        some [["GReLUrM4wMqfg9yzV3KQ", "2"]] := by
  refine ⟨by decide, by decide, by decide, rfl, ?_, by decide +kernel⟩
  have hnone : [["8yn0iYCKYHlIj4-BwPqk", "1"]].findSome?
      boundSalesByCity.fault? = none := by
    decide
  rw [rowNumber_eq _ _ _ [] hnone]
  exact congrArg Except.ok (by decide)

end BoundSelect

end ReportQuery
