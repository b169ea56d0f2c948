import ReportQuery.Proofs.Plan.Chain
import ReportQuery.Proofs.Plan.Contents

/-!
# Conditions along a chain of views

A condition on a view speaks of a column of the view, which stands for a column
of the view's source. Going down a chain of views every condition becomes one
on the final source, and the conditions of an unfolded statement say exactly
what the conditions of the statement and of all views of the chain say
together: a condition is left out only when it is there already.

Two lists of conditions cannot be merged exactly when a condition of the view
and a condition of the statement are on the same column of the source and
differ.
-/

namespace ReportQuery

/-- From a name on, the views on the way to a name that is no view's, the
outermost first. -/
inductive Catalog.ViewPath (catalog : Catalog) :
    String → List Table → String → Prop where
  | report {name : String} {table : Table} :
      catalog.table? name = some table → table.view = none →
      ViewPath catalog name [] name
  | view {name goal : String} {table : Table} {view : View}
      {path : List Table} :
      catalog.table? name = some table → table.view = some view →
        ViewPath catalog view.source path goal →
        ViewPath catalog name (table :: path) goal

/-- The column of the final source that a column stands for, down a chain of
views. -/
def columnBelow : List Table → String → Option String
  | [], label => some label
  | table :: path, label =>
    (table.column? label).bind fun column => columnBelow path column.name

namespace Condition

/-- The condition on the final source that a condition stands for, down a chain
of views. -/
def below (path : List Table) (c : Condition) : Option Condition :=
  (columnBelow path c.column).map fun column => { c with column }

/-- What a condition asks of a row of the final source, down a chain of
views. -/
def HoldsBelow {Row : Type} (holds : Condition → Row → Prop) (row : Row)
    (path : List Table) (c : Condition) : Prop :=
  ∃ d, c.below path = some d ∧ holds d row

end Condition

/-- A condition of a view and a condition of a statement on it are on the same
column of the source and differ. -/
def Table.Conflicts (table : Table) (own shown : List Condition) : Prop :=
  ∃ c ∈ shown, ∃ d ∈ own, ∃ renamed, d.below [table] = some renamed ∧
    renamed.column = c.column ∧ renamed ≠ c

namespace Plan

/-! ## One view -/

theorem below_nil (c : Condition) : c.below [] = some c := rfl

theorem below_cons (table : Table) (path : List Table) (c : Condition) :
    c.below (table :: path) = (c.below [table]).bind fun d => d.below path := by
  cases hcolumn : table.column? c.column <;>
    simp [Condition.below, columnBelow, hcolumn]

theorem renameCondition_eq_ok_iff_below {table : Table}
    {c renamed : Condition} :
    renameCondition table c = .ok renamed ↔ c.below [table] = some renamed := by
  rw [renameCondition_eq_ok_iff]
  cases hcolumn : table.column? c.column <;>
    simp [Condition.below, columnBelow, hcolumn]

/-- A condition holds below a chain when what it becomes at the first view
holds below the rest. -/
theorem holdsBelow_cons_iff {Row : Type} {holds : Condition → Row → Prop}
    {row : Row} {table : Table} {path : List Table} {c : Condition} :
    c.HoldsBelow holds row (table :: path) ↔
      ∃ d, c.below [table] = some d ∧ d.HoldsBelow holds row path := by
  constructor
  · rintro ⟨e, he, hrow⟩
    rw [below_cons] at he
    obtain ⟨d, hd, hde⟩ := Option.bind_eq_some_iff.mp he
    exact ⟨d, hd, e, hde, hrow⟩
  · rintro ⟨d, hd, e, he, hrow⟩
    refine ⟨e, ?_, hrow⟩
    rw [below_cons, hd]
    exact he

/-- Merged conditions say what the renamed ones and those of the view say. -/
theorem forall_mem_mergeConditions_iff {own shown conditions : List Condition}
    {table : Table} (h : mergeConditions own shown table = .ok conditions)
    (P : Condition → Prop) :
    (∀ c ∈ conditions, P c) ↔
      (∀ c ∈ own, ∃ d, c.below [table] = some d ∧ P d) ∧ ∀ c ∈ shown, P c := by
  classical
  obtain ⟨renamed, added, hrenamed, hadded, rfl⟩ :=
    mergeConditions_eq_ok_iff.mp h
  have hall := all_addedConditions hadded fun c => decide (P c)
  have hparts : (∀ c ∈ renamed ++ added, P c) ↔
      (∀ c ∈ renamed, P c) ∧ ∀ c ∈ shown, P c := by
    have hiff := Bool.eq_iff_iff.mp hall
    simpa only [Bool.and_eq_true, List.all_eq_true,
      decide_eq_true_eq] using hiff
  have hown : (∀ c ∈ renamed, P c) ↔
      ∀ c ∈ own, ∃ d, c.below [table] = some d ∧ P d := by
    constructor
    · intro hP c hc
      obtain ⟨d, hd, hcd⟩ := List.exists_right_of_forall₂ hrenamed hc
      exact ⟨d, renameCondition_eq_ok_iff_below.mp hcd, hP d hd⟩
    · intro hP d hd
      obtain ⟨c, hc, hcd⟩ := List.exists_left_of_forall₂ hrenamed hd
      obtain ⟨d', hcd', hd'⟩ := hP c hc
      rw [renameCondition_eq_ok_iff_below, hcd'] at hcd
      exact Option.some.inj hcd ▸ hd'
  rw [hparts, hown]

/-! ## Conflicts -/

/-- Conditions of a view are added unless one of them differs from a condition
on its column. -/
theorem addedConditions_eq_error_iff {name : String}
    {own shown : List Condition} {error : QueryError} :
    addedConditions name own shown = .error error ↔
      ∃ column, error = .outOfScope (.filteredByView column name) ∧
        (shown.find? fun c => own.any fun d =>
          d.column == c.column && d != c).map
          Condition.column = some column := by
  induction shown with
  | nil => simp [addedConditions]
  | cons c rest ih =>
      have hdiffers : (own.any fun d => d.column == c.column && d != c) =
          !((own.filter fun d => d.column == c.column).all
            fun d => d == c) := by
        rw [List.all_filter, List.not_all_eq_any_not]
        congr 1
        funext d
        cases hcolumn : d.column == c.column <;> simp [bne]
      simp only [addedConditions]
      cases hsame : (own.filter fun d => d.column == c.column).isEmpty with
      | true =>
          have hnone : (own.any fun d => d.column == c.column && d != c) =
              false := by
            rw [hdiffers, List.isEmpty_iff.mp hsame]
            rfl
          rw [if_pos rfl, List.find?_cons_of_neg (by simp [hnone])]
          rw [← ih]
          cases addedConditions name own rest <;> simp
      | false =>
          rw [if_neg (by simp)]
          cases hequal : (own.filter fun d => d.column == c.column).all fun d =>
            d == c with
          | true =>
              rw [if_pos rfl, List.find?_cons_of_neg
                (by simp [hdiffers, hequal])]
              exact ih
          | false =>
              rw [if_neg (by simp), List.find?_cons_of_pos
                (by simp [hdiffers, hequal])]
              simp [eq_comm]

theorem exists_renamed_of_hasColumn {own : List Condition} {table : Table}
    (hcolumns : ∀ c ∈ own, table.hasColumn c.column = true) :
    ∃ renamed, List.Forall₂ (fun c d => renameCondition table c = .ok d) own
      renamed := by
  rw [List.exists_forall₂_iff]
  intro c hc
  obtain ⟨column, hcolumn⟩ := Option.isSome_iff_exists.mp (hcolumns c hc)
  exact ⟨_, renameCondition_eq_ok_iff.mpr ⟨column, hcolumn, rfl⟩⟩

theorem conflicts_iff_of_renamed (shown : List Condition)
    {own renamed : List Condition} {table : Table}
    (h : List.Forall₂ (fun c d => renameCondition table c = .ok d)
      own renamed) :
    table.Conflicts own shown ↔
      ∃ c ∈ shown, (renamed.any fun d => d.column == c.column && d != c) =
        true := by
  simp only [Table.Conflicts, ← renameCondition_eq_ok_iff_below,
    List.any_eq_true, Bool.and_eq_true, beq_iff_eq, bne_iff_ne]
  constructor
  · rintro ⟨c, hc, d, hd, e, hde, hcolumn, hne⟩
    obtain ⟨e', he', hde'⟩ := List.exists_right_of_forall₂ h hd
    obtain rfl := Except.ok.inj (hde'.symm.trans hde)
    exact ⟨c, hc, e', he', hcolumn, hne⟩
  · rintro ⟨c, hc, e, he, hcolumn, hne⟩
    obtain ⟨d, hd, hde⟩ := List.exists_left_of_forall₂ h he
    exact ⟨c, hc, d, hd, e, hde, hcolumn, hne⟩

/-- Where the view has the columns of all conditions, a conflict is all that
can be wrong. -/
theorem mergeConditions_of_hasColumn {own : List Condition}
    (shown : List Condition) {table : Table}
    (hcolumns : ∀ c ∈ own, table.hasColumn c.column = true) :
    (table.Conflicts own shown ∧ ∃ column,
        mergeConditions own shown table =
          .error (.outOfScope (.filteredByView column table.name))) ∨
      (¬ table.Conflicts own shown ∧ ∃ conditions,
        mergeConditions own shown table = .ok conditions) := by
  obtain ⟨renamed, hrenamed⟩ := exists_renamed_of_hasColumn hcolumns
  have hconflicts := conflicts_iff_of_renamed shown hrenamed
  have hmerge : mergeConditions own shown table =
      (addedConditions table.name renamed shown).map fun added =>
        renamed ++ added := by
    rw [mergeConditions, Except.mapM_eq_ok_iff.mpr hrenamed]
    rfl
  cases hfirst : shown.find? fun c =>
    renamed.any fun d => d.column == c.column && d != c with
  | none =>
      have hnone : ¬ table.Conflicts own shown := by
        rw [hconflicts, ← List.find?_isSome, hfirst]
        exact Bool.false_ne_true
      refine Or.inr ⟨hnone, ?_⟩
      cases hadded : addedConditions table.name renamed shown with
      | ok added => exact ⟨renamed ++ added, by rw [hmerge, hadded]; rfl⟩
      | error error =>
          obtain ⟨column, -, hcolumn⟩ := addedConditions_eq_error_iff.mp hadded
          rw [hfirst] at hcolumn
          simp at hcolumn
  | some c =>
      have hdiffers := List.find?_some hfirst
      have hadded : addedConditions table.name renamed shown =
          .error (.outOfScope (.filteredByView c.column table.name)) :=
        addedConditions_eq_error_iff.mpr
          ⟨c.column, rfl, congrArg (Option.map Condition.column) hfirst⟩
      refine Or.inl ⟨?_, c.column, by rw [hmerge, hadded]; rfl⟩
      exact hconflicts.mpr ⟨c, List.mem_of_find?_eq_some hfirst, hdiffers⟩

/-! ## Whole chains -/

/-- A suffix of a path is the path itself, which its first table begins, or one
of the rest. -/
theorem forall_suffix_cons_iff {table : Table} {path : List Table}
    {P : Table → List Table → Prop} :
    (∀ table' rest, table' :: rest <:+ table :: path → P table' rest) ↔
      P table path ∧ ∀ table' rest, table' :: rest <:+ path →
        P table' rest := by
  constructor
  · intro hall
    refine ⟨hall table path List.suffix_rfl, ?_⟩
    intro table' rest hsuffix
    exact hall table' rest (hsuffix.trans (List.suffix_cons table path))
  · rintro ⟨hhead, htail⟩ table' rest hsuffix
    rcases List.suffix_cons_iff.mp hsuffix with heq | hsuffix
    · obtain ⟨rfl, rfl⟩ := List.cons.inj heq
      exact hhead
    · exact htail table' rest hsuffix

/-- A statement is unfolded along a path of views. What holds at the report,
and at a view of every statement whose merged statement has it, holds along
this path. -/
theorem unfoldWithin_viewPath {catalog : Catalog} {today : Day} {r : Select}
    (Along : List Table → Select → Prop) (hreport : Along [] r)
    (hview : ∀ s table view merged path, table.view = some view →
      merge today s table view = .ok merged → Along path merged →
      Along (table :: path) s)
    {depth : Nat} {s : Select}
    (h : unfoldWithin catalog today depth s = .ok r) :
    ∃ path, catalog.ViewPath s.source path r.source ∧ Along path s := by
  induction depth generalizing s with
  | zero => simp [unfoldWithin] at h
  | succ depth ih =>
      obtain ⟨table, htable,
          ⟨hnone, rfl⟩ | ⟨view, merged, hsome, hmerge, hrest⟩⟩ :=
        unfoldWithin_succ_eq_ok_iff.mp h
      · exact ⟨[], .report htable hnone, hreport⟩
      · obtain ⟨path, hpath, halong⟩ := ih hrest
        rw [source_of_merge hmerge] at hpath
        exact ⟨table :: path, .view htable hsome hpath,
          hview s table view merged path hsome hmerge halong⟩

/-- What an unfolded statement asks of a row: the statement and every view of
the chain ask it. -/
theorem forall_mem_unfoldWithin_iff {catalog : Catalog} {today : Day}
    {depth : Nat} {s r : Select}
    (h : unfoldWithin catalog today depth s = .ok r) :
    ∃ path, catalog.ViewPath s.source path r.source ∧
      ∀ {Row : Type} (holds : Condition → Row → Prop) (row : Row),
        (∀ c ∈ r.conditions, holds c row) ↔
          (∀ c ∈ s.conditions, c.HoldsBelow holds row path) ∧
            ∀ table rest, table :: rest <:+ path → ∀ view ∈ table.view,
              ∀ c ∈ view.conditions, c.HoldsBelow holds row rest := by
  refine unfoldWithin_viewPath
    (fun path s => ∀ {Row : Type} (holds : Condition → Row → Prop)
    (row : Row), (∀ c ∈ r.conditions, holds c row) ↔
      (∀ c ∈ s.conditions, c.HoldsBelow holds row path) ∧
        ∀ table rest, table :: rest <:+ path → ∀ view ∈ table.view,
          ∀ c ∈ view.conditions, c.HoldsBelow holds row rest) ?_ ?_ h
  · intro Row holds row
    simp [Condition.HoldsBelow, below_nil]
  · intro s table view merged path hview hmerge hholds Row holds row
    obtain ⟨blocks, conditions, during, -, hconditions, -, rfl⟩ :=
      merge_eq_ok_iff.mp hmerge
    have hshown : (∀ view' ∈ table.view, ∀ c ∈ view'.conditions,
        c.HoldsBelow holds row path) ↔
        ∀ c ∈ view.conditions, c.HoldsBelow holds row path := by
      simp [hview]
    rw [hholds, forall_mem_mergeConditions_iff hconditions,
      forall_suffix_cons_iff, hshown, and_assoc]
    simp only [holdsBelow_cons_iff]

/-- The conditions of an unfolded statement are those of the statement and of
every view of its chain together, each on the column of the final source that
its column stands for. At one view merging fails exactly when a condition of
the view and a renamed one of the statement are on the same column and differ,
provided that the view has the columns of the statement's conditions. -/
theorem conditions_of_unfold (catalog : Catalog) (today : Day) (s : Select) :
    (∀ r, unfold catalog today s = .ok r →
      ∃ path, catalog.ViewPath s.source path r.source ∧
        ∀ {Row : Type} (holds : Condition → Row → Prop) (row : Row),
          (∀ c ∈ r.conditions, holds c row) ↔
            (∀ c ∈ s.conditions, c.HoldsBelow holds row path) ∧
              ∀ table rest, table :: rest <:+ path → ∀ view ∈ table.view,
                ∀ c ∈ view.conditions, c.HoldsBelow holds row rest) ∧
      ∀ (table : Table) (own shown : List Condition),
        (∀ c ∈ own, table.hasColumn c.column = true) →
          ((∃ column, mergeConditions own shown table =
              .error (.outOfScope (.filteredByView column table.name))) ↔
            table.Conflicts own shown) ∧
          ((∃ conditions, mergeConditions own shown table = .ok conditions) ↔
            ¬ table.Conflicts own shown) := by
  constructor
  · intro r hr
    exact forall_mem_unfoldWithin_iff hr
  · intro table own shown hcolumns
    rcases mergeConditions_of_hasColumn shown hcolumns with
      ⟨hconflict, column, herror⟩ | ⟨hnone, conditions, hok⟩
    · refine ⟨⟨fun _ => hconflict, fun _ => ⟨column, herror⟩⟩, ?_⟩
      constructor
      · rintro ⟨conditions, hok⟩
        rw [herror] at hok
        simp at hok
      · intro hnone
        exact absurd hconflict hnone
    · refine ⟨?_, ⟨fun _ => hnone, fun _ => ⟨conditions, hok⟩⟩⟩
      constructor
      · rintro ⟨column, herror⟩
        rw [hok] at herror
        simp at herror
      · intro hconflict
        exact absurd hconflict hnone

/-- A condition with one quoted value. -/
def quotedCondition (column : String) (operator : Operator) (value : String) :
    Condition :=
  { column, operator, values := [value], literal := false }

/-- A catalog with a report of visits, a view of those by phone, and a view of
those from the north on top of it. -/
def visitCatalog : Catalog where
  version := "v1"
  tables := [
    { name := "VISITS"
      aggregateColumn := "Id"
      columns := [{ name := "Id" }, { name := "City" }, { name := "Device" }] },
    { name := "PHONES"
      aggregateColumn := "Id"
      columns :=
        [{ name := "Id" }, { name := "City", aliasName := some "town" }]
      view := some {
        source := "VISITS"
        primaryKey := "Id"
        conditions := [quotedCondition "Device" .equal "phone"] } },
    { name := "NORTH"
      aggregateColumn := "Id"
      columns :=
        [{ name := "Id" }, { name := "town", aliasName := some "place" }]
      view := some {
        source := "PHONES"
        primaryKey := "Id"
        conditions := [quotedCondition "town" .startsWith "N"] } }]

/-- The visits from the north with an own condition, and with one that the view
has already. -/
def northSelect : Select where
  items := [{ column := { name := "place" } }]
  source := "NORTH"
  conditions := [quotedCondition "Id" .different "7",
    quotedCondition "place" .startsWith "N"]

theorem conditions_of_unfold_northSelect :
    ∃ r path, unfold visitCatalog (Day.ofCount 0) northSelect = .ok r ∧
      r.conditions = [quotedCondition "Id" .different "7",
        quotedCondition "City" .startsWith "N",
        quotedCondition "Device" .equal "phone"] ∧
      visitCatalog.ViewPath "NORTH" path r.source ∧
      (∀ {Row : Type} (holds : Condition → Row → Prop) (row : Row),
        (∀ c ∈ r.conditions, holds c row) ↔
          (∀ c ∈ northSelect.conditions, c.HoldsBelow holds row path) ∧
            ∀ table rest, table :: rest <:+ path → ∀ view ∈ table.view,
              ∀ c ∈ view.conditions, c.HoldsBelow holds row rest) ∧
      ∃ column,
        mergeConditions [quotedCondition "place" .startsWith "S"]
            [quotedCondition "town" .startsWith "N"] visitCatalog.tables[2] =
          .error (.outOfScope (.filteredByView column "NORTH")) := by
  obtain ⟨hunfolds, hmerges⟩ :=
    conditions_of_unfold visitCatalog (Day.ofCount 0) northSelect
  have hconditions :
      (unfold visitCatalog (Day.ofCount 0) northSelect).toOption.map
      Select.conditions = some [quotedCondition "Id" .different "7",
        quotedCondition "City" .startsWith "N",
        quotedCondition "Device" .equal "phone"] := by
    decide +kernel
  have hcolumns : ∀ c ∈ [quotedCondition "place" .startsWith "S"],
      visitCatalog.tables[2].hasColumn c.column = true := by
    decide +kernel
  have hconflict : visitCatalog.tables[2].Conflicts
      [quotedCondition "place" .startsWith "S"]
      [quotedCondition "town" .startsWith "N"] := by
    refine ⟨_, List.mem_singleton_self _, _, List.mem_singleton_self _,
      quotedCondition "town" .startsWith "S", ?_, ?_, ?_⟩ <;> decide +kernel
  cases hr : unfold visitCatalog (Day.ofCount 0) northSelect with
  | error error => simp [hr] at hconditions
  | ok r =>
      rw [hr] at hconditions
      obtain ⟨path, hpath, hholds⟩ := hunfolds r hr
      exact ⟨r, path, rfl, Option.some.inj hconditions, hpath, hholds,
        (hmerges _ _ _ hcolumns).1.mpr hconflict⟩

end Plan

end ReportQuery
