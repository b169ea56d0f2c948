import ReportQuery.Proofs.Numeral
import ReportQuery.Proofs.Plan.Conditions

/-!
# How deep views are unfolded

Before every view that it goes through unfolding makes a test, and the test
that finds the report is one of them too. So with sixteen tests a statement
goes through fifteen views, and a chain of sixteen is refused as being longer
than sixteen.
-/

namespace ReportQuery.Plan

/-- A statement merged with the views of a chain, one after the other. -/
def mergeAlong (today : Day) : List Table → Select → Except QueryError Select
  | [], s => .ok s
  | table :: path, s =>
    match table.view with
    | none => .ok s
    | some view => (merge today s table view).bind (mergeAlong today path)

variable {catalog : Catalog} {today : Day} {path : List Table} {goal : String}

theorem mergeAlong_cons {table : Table} {view : View}
    (hview : table.view = some view) (s : Select) :
    mergeAlong today (table :: path) s =
      (merge today s table view).bind (mergeAlong today path) := by
  simp only [mergeAlong, hview]

theorem source_of_mergeAlong {s r : Select}
    (hpath : catalog.ViewPath s.source path goal)
    (h : mergeAlong today path s = .ok r) : r.source = goal := by
  generalize hsource : s.source = name at hpath
  induction hpath generalizing s with
  | report htable hview =>
      obtain rfl := Except.ok.inj h
      exact hsource
  | view htable hview _ ih =>
      rw [mergeAlong_cons hview] at h
      obtain ⟨merged, hmerge, hrest⟩ := Except.bind_eq_ok_iff.mp h
      exact ih hrest (source_of_merge hmerge)

theorem exists_report_of_viewPath {name : String}
    (h : catalog.ViewPath name path goal) :
    ∃ report, catalog.table? goal = some report ∧ report.view = none := by
  induction h with
  | report htable hview => exact ⟨_, htable, hview⟩
  | view _ _ _ ih => exact ih

/-- What can be merged with a whole chain can be merged with its beginning. -/
theorem exists_mergeAlong_take {s r : Select}
    (h : mergeAlong today path s = .ok r) (n : Nat) :
    ∃ r', mergeAlong today (path.take n) s = .ok r' := by
  induction path generalizing s n with
  | nil => exact ⟨s, by simp [mergeAlong]⟩
  | cons table path ih =>
      cases n with
      | zero => exact ⟨s, rfl⟩
      | succ n =>
          rw [List.take_succ_cons]
          cases hview : table.view with
          | none => exact ⟨s, by simp [mergeAlong, hview]⟩
          | some view =>
              rw [mergeAlong_cons hview] at h
              obtain ⟨merged, hmerge, hrest⟩ := Except.bind_eq_ok_iff.mp h
              obtain ⟨r', hr'⟩ := ih hrest n
              refine ⟨r', ?_⟩
              rw [mergeAlong_cons hview]
              exact Except.bind_eq_ok_iff.mpr ⟨merged, hmerge, hr'⟩

/-- With some number of tests a statement is merged with as many views of its
chain at most, and it arrives when one test is left. -/
theorem unfoldWithin_of_viewPath (today : Day) {s : Select}
    (hpath : catalog.ViewPath s.source path goal)
    (depth : Nat) :
    unfoldWithin catalog today depth s =
      (mergeAlong today (path.take depth) s).bind fun r =>
        if path.length < depth then .ok r
        else .error (.outOfScope (.tooManyViews maxDepth)) := by
  induction depth generalizing s path with
  | zero => rfl
  | succ depth ih =>
      generalize hsource : s.source = name at hpath
      cases hpath with
      | report htable hview =>
          simp only [unfoldWithin, hsource, htable, hview,
            List.take_nil, mergeAlong]
          rfl
      | @view _ _ table view path htable hview hrest =>
          rw [List.take_succ_cons, mergeAlong_cons hview]
          simp only [unfoldWithin, hsource, htable, hview]
          cases hmerge : merge today s table view with
          | error error => rfl
          | ok merged =>
              have hmerged : catalog.ViewPath merged.source path goal := by
                rw [source_of_merge hmerge]
                exact hrest
              simp only [Except.bind, List.length_cons, Nat.succ_lt_succ_iff]
              exact ih hmerged

theorem unfold_eq_mergeAlong {s : Select}
    (hpath : catalog.ViewPath s.source path goal) (h : path.length < maxDepth) :
    unfold catalog today s = mergeAlong today path s := by
  have hunfold := unfoldWithin_of_viewPath today hpath maxDepth
  rw [List.take_of_length_le (Nat.le_of_lt h)] at hunfold
  simp only [if_pos h] at hunfold
  rw [unfold, hunfold]
  cases mergeAlong today path s <;> rfl

theorem unfold_of_maxDepth_le {s r : Select}
    (hpath : catalog.ViewPath s.source path goal)
    (hmerges : mergeAlong today path s = .ok r) (h : maxDepth ≤ path.length) :
    unfold catalog today s = .error (.outOfScope (.tooManyViews maxDepth)) := by
  have hunfold := unfoldWithin_of_viewPath today hpath maxDepth
  obtain ⟨r', hr'⟩ := exists_mergeAlong_take hmerges maxDepth
  rw [hr'] at hunfold
  exact hunfold.trans (if_neg (Nat.not_lt.mpr h))

/-- A statement that can be merged with every view of its chain arrives at the
report when there are fifteen of them at most. With sixteen or more it is
refused for more than sixteen. -/
theorem unfold_of_viewPath {s r : Select}
    (hpath : catalog.ViewPath s.source path goal)
    (hmerges : mergeAlong today path s = .ok r) :
    (r.source = goal ∧ ∃ report, catalog.table? goal = some report ∧
      report.view = none) ∧
      (path.length ≤ 15 → unfold catalog today s = .ok r) ∧
      (16 ≤ path.length →
        unfold catalog today s = .error (.outOfScope (.tooManyViews 16))) := by
  refine ⟨⟨source_of_mergeAlong hpath hmerges, exists_report_of_viewPath hpath⟩,
    ?_, ?_⟩
  · intro hshort
    exact (unfold_eq_mergeAlong hpath (Nat.lt_succ_of_le hshort)).trans hmerges
  · intro hlong
    exact unfold_of_maxDepth_le hpath hmerges hlong

/-! ## Chains of any length -/

/-- The name of the view at a level above the report. -/
def levelName (n : Nat) : String :=
  "LEVEL" ++ Numeral.ofNat n

/-- A report, and above it views of the view one level below. -/
def levelTable : Nat → Table
  | 0 =>
    { name := levelName 0, aggregateColumn := "Id",
      columns := [{ name := "Id" }] }
  | n + 1 =>
    { name := levelName (n + 1)
      aggregateColumn := "Id"
      columns := [{ name := "Id" }]
      view := some { source := levelName n, primaryKey := "Id" } }

/-- The catalog with a report and a number of levels. -/
def levelCatalog (n : Nat) : Catalog where
  version := "v1"
  tables := (List.range (n + 1)).map levelTable

/-- The views from a level down to the report. -/
def levelPath : Nat → List Table
  | 0 => []
  | n + 1 => levelTable (n + 1) :: levelPath n

/-- The identifiers of a level. -/
def levelSelect (n : Nat) : Select where
  items := [{ column := { name := "Id" } }]
  source := levelName n

theorem levelName_injective : Function.Injective levelName := by
  intro m n h
  have hnumerals : (Numeral.ofNat m).toList = (Numeral.ofNat n).toList := by
    simpa [levelName] using congrArg String.toList h
  exact Numeral.ofNat_injective (String.toList_injective hnumerals)

theorem name_levelTable (n : Nat) : (levelTable n).name = levelName n := by
  cases n <;> rfl

theorem length_levelPath (n : Nat) : (levelPath n).length = n := by
  induction n with
  | zero => rfl
  | succ n ih => rw [levelPath, List.length_cons, ih]

theorem table?_levelCatalog {n i : Nat} (h : i ≤ n) :
    (levelCatalog n).table? (levelName i) = some (levelTable i) := by
  have hfound : (List.range (n + 1)).find?
      (fun j => (levelTable j).name == levelName i) = some i := by
    rw [List.find?_range_eq_some]
    refine ⟨by simp [name_levelTable],
      List.mem_range.mpr (Nat.lt_succ_of_le h), ?_⟩
    intro j hj
    have hne : levelName j ≠ levelName i :=
      fun heq => Nat.ne_of_lt hj (levelName_injective heq)
    simpa [name_levelTable] using hne
  rw [Catalog.table?, levelCatalog, List.find?_map]
  exact congrArg (Option.map levelTable) hfound

theorem viewPath_levelCatalog {n i : Nat} (h : i ≤ n) :
    (levelCatalog n).ViewPath (levelName i) (levelPath i) (levelName 0) := by
  induction i with
  | zero => exact .report (table?_levelCatalog h) rfl
  | succ i ih =>
      exact .view (table?_levelCatalog h) rfl (ih (Nat.le_of_succ_le h))

theorem mergeAlong_levelPath (today : Day) (n : Nat) :
    mergeAlong today (levelPath n) (levelSelect n) = .ok (levelSelect 0) := by
  induction n with
  | zero => rfl
  | succ n ih =>
      have hmerge : merge today (levelSelect (n + 1)) (levelTable (n + 1))
          { source := levelName n, primaryKey := "Id" } = .ok (levelSelect n) :=
        merge_eq_ok_iff.mpr ⟨[[{ column := { name := "Id" } }]], [], none,
          .cons (by rfl) .nil, rfl, rfl, rfl⟩
      rw [levelPath, mergeAlong_cons rfl, hmerge]
      exact ih

/-- Fifteen levels are gone through. -/
theorem unfold_levelSelect_fifteen :
    (levelCatalog 15).ViewPath (levelSelect 15).source (levelPath 15)
    (levelName 0) ∧
      mergeAlong Day.epoch (levelPath 15) (levelSelect 15) =
        .ok (levelSelect 0) ∧
      (levelPath 15).length = 15 ∧
      unfold (levelCatalog 15) Day.epoch (levelSelect 15) =
        .ok (levelSelect 0) := by
  have hpath := viewPath_levelCatalog (Nat.le_refl 15)
  have hmerges := mergeAlong_levelPath Day.epoch 15
  refine ⟨hpath, hmerges, length_levelPath 15, ?_⟩
  exact (unfold_of_viewPath hpath hmerges).2.1
    (Nat.le_of_eq (length_levelPath 15))

/-- Sixteen levels, which are not more than sixteen, are refused for being
more. -/
theorem not_unfold_levelSelect_sixteen :
    parseStatement "SELECT Id FROM LEVEL16" = .ok (.select (levelSelect 16)) ∧
      (levelCatalog 16).ViewPath (levelSelect 16).source (levelPath 16)
        (levelName 0) ∧
      (levelPath 16).length = 16 ∧
      mergeAlong Day.epoch (levelPath 16) (levelSelect 16) =
        .ok (levelSelect 0) ∧
      unfold (levelCatalog 16) Day.epoch (levelSelect 16) =
        .error (.outOfScope (.tooManyViews 16)) := by
  have hpath : (levelCatalog 16).ViewPath (levelSelect 16).source (levelPath 16)
      (levelName 0) :=
    viewPath_levelCatalog (Nat.le_refl 16)
  have hmerges := mergeAlong_levelPath Day.epoch 16
  refine ⟨by decide +kernel, hpath, length_levelPath 16, hmerges, ?_⟩
  exact unfold_of_maxDepth_le hpath hmerges
    (Nat.le_of_eq (length_levelPath 16).symm)

end ReportQuery.Plan
