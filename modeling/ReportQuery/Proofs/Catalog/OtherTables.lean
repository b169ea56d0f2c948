import ReportQuery.Proofs.Catalog.Soundness

/-!
# Tables that a stored view leaves alone

A statement that is refused changes nothing. One that is accepted changes a
single entry of the catalog: the view comes after all tables, or takes the
place of a view with its name. All other tables keep their content and their
position, so that no statement ever changes, removes or hides a report, and a
chain of sources that does not meet the name of the view unfolds as before.
-/

namespace ReportQuery.Catalog

/-- What an accepted statement does to a catalog. -/
inductive Stores (before : Catalog) (create : CreateView) (stored : Table) :
    Catalog → Prop where
  | appended : before.table? create.name = none →
      Stores before create stored { before with tables := before.tables ++
        [stored] }
  | replaced {front back : List Table} {old : Table} :
      before.tables = front ++ old :: back →
      old.name = create.name → old.isView = true → create.replace = true →
        Stores before create stored { before with tables := front ++
          stored :: back }

theorem put_of_fresh {stored : Table} {tables : List Table}
    (h : ∀ table ∈ tables, table.name ≠ stored.name) :
    put stored tables = tables ++ [stored] := by
  induction tables with
  | nil => rfl
  | cons table rest ih =>
      have hrest := ih fun other hother =>
        h other (List.mem_cons_of_mem table hother)
      rw [put, if_neg (mt beq_iff_eq.mp (h table List.mem_cons_self)), hrest,
        List.cons_append]

theorem put_of_present {stored old : Table} {front back : List Table}
    (h : ∀ table ∈ front, table.name ≠ stored.name)
    (hold : old.name = stored.name) :
    put stored (front ++ old :: back) = front ++ stored :: back := by
  induction front with
  | nil =>
      rw [List.nil_append, put, if_pos (beq_iff_eq.mpr hold), List.nil_append]
  | cons table rest ih =>
      have hrest := ih fun other hother =>
        h other (List.mem_cons_of_mem table hother)
      rw [List.cons_append, put,
        if_neg (mt beq_iff_eq.mp (h table List.mem_cons_self)), hrest,
        List.cons_append]

variable {catalog before after : Catalog} {create : CreateView} {stored : Table}

/-- An accepted statement stores a view with its name. -/
theorem stores_of_addView (hadd : before.addView create = .ok after) :
    ∃ stored, stored.name = create.name ∧ stored.isView = true ∧
      before.Stores create stored after := by
  obtain ⟨hfree, source, blocks, -, -, rfl⟩ := addView_eq_ok_iff.mp hadd
  refine ⟨create.table source blocks, rfl, rfl, ?_⟩
  cases hfound : before.table? create.name with
  | none =>
      have hfresh : ∀ table ∈ before.tables, table.name ≠ create.name := by
        intro table hmem hname
        exact List.find?_eq_none.mp hfound table hmem (beq_iff_eq.mpr hname)
      rw [storing, put_of_fresh hfresh]
      exact .appended hfound
  | some old =>
      obtain ⟨hreplace, hview⟩ := checkName_eq_ok_iff.mp hfree old hfound
      obtain ⟨hname, front, back, htables, hfront⟩ :=
        List.find?_eq_some_iff_append.mp hfound
      have hother : ∀ table ∈ front, table.name ≠ create.name := by
        intro table hmem
        simpa using hfront table hmem
      rw [storing, htables, put_of_present hother (beq_iff_eq.mp hname)]
      exact .replaced htables (beq_iff_eq.mp hname) hview hreplace

/-- A table under another name, and a table that is a report, stand where they
stood. -/
theorem Stores.getElem?_iff (h : before.Stores create stored after)
    {table : Table} (hstored : table ≠ stored)
    (hother : table.name ≠ create.name ∨ table.isView = false) (i : Nat) :
    after.tables[i]? = some table ↔ before.tables[i]? = some table := by
  cases h with
  | appended _ =>
      rcases Nat.lt_trichotomy i before.tables.length with hlt | rfl | hgt
      · rw [List.getElem?_append_left hlt]
      · simp [hstored.symm]
      · have hend : (before.tables ++ [stored]).length ≤ i := by
          rw [List.length_append, List.length_singleton]
          exact hgt
        rw [List.getElem?_eq_none hend,
          List.getElem?_eq_none (Nat.le_of_lt hgt)]
  | @replaced front back old htables hname hview _ =>
      have hold : old ≠ table := by
        rintro rfl
        rcases hother with hne | hreport
        · exact hne hname
        · simp [hreport] at hview
      simp only [htables, List.getElem?_append, List.getElem?_cons]
      split
      · rfl
      · split
        · simp [hstored.symm, hold]
        · rfl

theorem table?_of_getElem? (h : catalog.NamesUnique) {i : Nat} {table : Table}
    (htable : catalog.tables[i]? = some table) :
    catalog.table? table.name = some table :=
  (table?_eq_some_iff h).mpr ⟨List.mem_of_getElem? htable, rfl⟩

theorem namesUnique_of_addView (h : before.NamesUnique)
    (hadd : before.addView create = .ok after) : after.NamesUnique := by
  obtain ⟨-, source, blocks, -, -, rfl⟩ := addView_eq_ok_iff.mp hadd
  exact namesUnique_storing h _

theorem namesUnique_addViews (h : catalog.NamesUnique)
    (creates : List CreateView) : (catalog.addViews creates).NamesUnique :=
  addViews_induction NamesUnique (fun _ => True)
    (fun _ _ _ hbefore _ hadd => namesUnique_of_addView hbefore hadd) h
      fun _ _ => trivial

/-- The reports of a catalog are the same, at the same positions, after any
statements. -/
theorem getElem?_addViews_of_report (catalog : Catalog)
    (creates : List CreateView) {report : Table}
    (hreport : report.isView = false) (i : Nat) :
    (catalog.addViews creates).tables[i]? = some report ↔
      catalog.tables[i]? = some report := by
  refine addViews_induction
    (fun after => after.tables[i]? = some report ↔
      catalog.tables[i]? = some report)
    (fun _ => True) ?_ Iff.rfl fun _ _ => trivial
  intro before create after hbefore _ hadd
  obtain ⟨stored, -, hview, hstores⟩ := stores_of_addView hadd
  have hne : report ≠ stored := by
    rintro rfl
    simp [hreport] at hview
  rw [hstores.getElem?_iff hne (.inr hreport), hbefore]

/-- A report has no sources that could lead to another name. -/
theorem not_leadsTo_of_report {goal name : String} {report : Table}
    (hreport : catalog.table? name = some report) (hbase : report.view = none)
    (hne : name ≠ goal) : ¬ catalog.LeadsTo goal name := by
  intro hleads
  cases hleads with
  | here => exact hne rfl
  | step htable hview _ =>
      obtain rfl := Option.some.inj (hreport.symm.trans htable)
      simp [hbase] at hview

theorem unfold_of_addView (hadd : before.addView create = .ok after)
    {today : Day} {select : Select}
    (h : ¬ before.LeadsTo create.name select.source) :
    Plan.unfold after today select = Plan.unfold before today select := by
  obtain ⟨-, source, blocks, -, -, rfl⟩ := addView_eq_ok_iff.mp hadd
  exact Plan.unfoldWithin_storing_of_not_leadsTo h

/-- A statement leaves the tables under other names as and where they are. -/
theorem getElem?_afterView_of_ne (create : CreateView) (i : Nat) {table : Table}
    (hname : table.name ≠ create.name) :
    (before.afterView create).tables[i]? = some table ↔
      before.tables[i]? = some table := by
  refine afterView_cases
    (fun after => after.tables[i]? = some table ↔
      before.tables[i]? = some table) Iff.rfl ?_
  intro after hadd
  obtain ⟨stored, hstored, -, hstores⟩ := stores_of_addView hadd
  have hne : table ≠ stored := by
    rintro rfl
    exact hname hstored
  exact hstores.getElem?_iff hne (.inl hname) i

/-- What does not lead to the name of a view unfolds after its statement as
before. -/
theorem unfold_afterView {today : Day} {select : Select}
    (h : ¬ before.LeadsTo create.name select.source) :
    Plan.unfold (before.afterView create) today select =
      Plan.unfold before today select :=
  afterView_cases (fun after => Plan.unfold after today select =
    Plan.unfold before today select) rfl fun _ hadd => unfold_of_addView hadd h

/-- One statement after any others, on a catalog with unique names. Names stay
unique. A refused statement changes nothing, an accepted one stores a view with
its name at one place. Tables under other names stay as and where they are, the
reports are those of the first catalog and are found by their names, and what
does not lead to the name of the view unfolds as before. -/
theorem afterView_addViews (h : catalog.NamesUnique) (called : List CreateView)
    (create : CreateView) :
    let before := catalog.addViews called
    let after := before.afterView create
    after.NamesUnique ∧
    (∀ error, before.addView create = .error error → after = before) ∧
    (∀ accepted, before.addView create = .ok accepted → after = accepted ∧
      ∃ stored, stored.name = create.name ∧ stored.isView = true ∧
        before.Stores create stored after) ∧
    (∀ (i : Nat) (table : Table), table.name ≠ create.name →
      (after.tables[i]? = some table ↔ before.tables[i]? = some table)) ∧
    (∀ (i : Nat) (report : Table), report.isView = false →
      (after.tables[i]? = some report ↔ catalog.tables[i]? = some report) ∧
      (catalog.tables[i]? = some report →
        after.table? report.name = some report)) ∧
    ∀ today select, ¬ before.LeadsTo create.name select.source →
      Plan.unfold after today select = Plan.unfold before today select := by
  intro before after
  have hrun : after = catalog.addViews (called ++ [create]) :=
    (addViews_append_singleton catalog called create).symm
  have hunique : after.NamesUnique := hrun ▸ namesUnique_addViews h _
  have hreports : ∀ (i : Nat) (report : Table), report.isView = false →
      (after.tables[i]? = some report ↔ catalog.tables[i]? = some report) :=
    fun i report hreport =>
      hrun ▸ getElem?_addViews_of_report catalog _ hreport i
  refine ⟨hunique, fun error herror => afterView_of_error herror, ?_,
    fun i table hname => getElem?_afterView_of_ne create i hname, ?_,
    fun today select hleads => unfold_afterView hleads⟩
  · intro accepted hadd
    have hafter : after = accepted := afterView_of_ok hadd
    exact ⟨hafter, hafter ▸ stores_of_addView hadd⟩
  · intro i report hreport
    exact ⟨hreports i report hreport,
      fun hfound => table?_of_getElem? hunique
        ((hreports i report hreport).mpr hfound)⟩

/-- Of two statements the first is refused, and the second takes the place of
the view of places. The report and the view on top stay where they are, and
statements on the report unfold as before. -/
theorem afterView_townPlaces :
    shopCatalog.NamesUnique ∧
    (shopCatalog.addView idTowns).toOption = none ∧
    let before := shopCatalog.addViews [idTowns]
    let after := before.afterView townPlaces
    (∃ stored, stored.name = "places" ∧ before.Stores townPlaces stored after) ∧
    after.tables[2]? = some shopCatalog.tables[2] ∧
    after.table? "SHOPS" = some shopCatalog.tables[0] ∧
    ∀ today select, select.source = "SHOPS" →
      Plan.unfold after today select = Plan.unfold before today select := by
  have hnames : shopCatalog.NamesUnique := sound_shopCatalog.names
  obtain ⟨-, -, haccepted, htables, hreports, hunfold⟩ :=
    afterView_addViews hnames [idTowns] townPlaces
  refine ⟨hnames, by decide +kernel, ?_, ?_, ?_, ?_⟩
  · cases hadd : (shopCatalog.addViews [idTowns]).addView townPlaces with
    | error error =>
        have hsome :
            ((shopCatalog.addViews [idTowns]).addView townPlaces).isOk =
            true := by
          decide +kernel
        simp [hadd, Except.isOk, Except.toBool] at hsome
    | ok accepted =>
        obtain ⟨-, stored, hname, -, hstores⟩ := haccepted accepted hadd
        exact ⟨stored, hname, hstores⟩
  · exact (htables 2 shopCatalog.tables[2] (by decide +kernel)).mpr
      (by decide +kernel)
  · exact (hreports 0 shopCatalog.tables[0] (by decide +kernel)).2
      (by decide +kernel)
  · intro today select hsource
    have hshops : (shopCatalog.addViews [idTowns]).table? select.source =
        some shopCatalog.tables[0] := by
      rw [hsource]
      decide +kernel
    have hne : select.source ≠ townPlaces.name := by
      rw [hsource]
      decide
    exact hunfold today select (not_leadsTo_of_report hshops rfl hne)

end ReportQuery.Catalog
