import ReportQuery.Proofs.Plan.Chain
import ReportQuery.Proofs.Statement.WellFormed

/-!
# What unfolding keeps of a statement

A star becomes a block of entries, one for every column of the view, and shifts
the entries after it. Every other entry has a single image. The clauses of the
statement follow: their positions move to the first image of the entry that
they stood for.

Only the first view can meet a star. Below it the select list keeps its length
and the positions stay where they are, so the blocks are found at the first
view and the rest of the chain is a statement about entries one by one.
-/

namespace ReportQuery

/-- An entry is shown by another under its name, with its own function and its
DISTINCT. -/
structure SelectItem.Keeps (item image : SelectItem) : Prop where
  label : image.label = item.label
  star : image.isStar = item.isStar
  function : ∀ function ∈ item.function, image.function = some function
  distinct : item.distinct = true → image.distinct = true

/-- A column of a view is shown by an entry under its name, with its method and
its DISTINCT. -/
structure TableColumn.ShownAs (column : TableColumn) (image : SelectItem) :
    Prop where
  label : image.label = column.label
  star : image.isStar = false
  method : ∀ name ∈ column.method,
    ∃ function, AggregateFunction.ofName? name = some function ∧
    image.function = some function
  distinct : column.distinct = true → image.distinct = true

/-- The images of an entry: those of all columns for a star on a view, or else
a single one. -/
def Table.ShowsAs (source : Table) (item : SelectItem)
    (block : List SelectItem) : Prop :=
  if source.isView = true ∧ item.isStar = true then
    List.Forall₂ TableColumn.ShownAs source.columns block
  else ∃ image, block = [image] ∧ item.Keeps image

/-- The position of the first image of the entry that a position stands for. -/
def imagePosition (blocks : List (List SelectItem)) (p : ColumnPosition) :
    Nat :=
  (blocks.take (p.position - 1)).flatten.length + 1

/-- A position stands for the first image of the entry that another stood
for. -/
def ColumnPosition.Follows (blocks : List (List SelectItem))
    (p q : ColumnPosition) : Prop :=
  ∃ image rest, blocks[p.position - 1]? = some (image :: rest) ∧
    q = ⟨image.column, imagePosition blocks p⟩

/-- The entries of a statement, one by one, and the positions of its clauses
are those of another. -/
structure Select.Carries (s r : Select) : Prop where
  items : List.Forall₂ SelectItem.Keeps s.items r.items
  groupBy : s.groupBy ≠ [] →
    r.groupBy.map ColumnPosition.position =
    s.groupBy.map ColumnPosition.position
  orderBy : s.orderBy ≠ [] →
    r.orderBy.map OrderEntry.place = s.orderBy.map OrderEntry.place

/-- The positions of a statement stand for its entries and carry their
columns. -/
structure Select.Refers (s : Select) : Prop where
  groupBy : ∀ p ∈ s.groupBy, p.RefersTo s.items
  orderBy : ∀ entry ∈ s.orderBy, entry.target.RefersTo s.items

/-- Every entry of a statement has its images in another, the clauses of the
statement follow the entries, and all positions carry the columns that they
stand for. -/
structure Select.KeptBy (source : Table) (blocks : List (List SelectItem))
    (s r : Select) : Prop where
  items : r.items = blocks.flatten
  images : List.Forall₂ source.ShowsAs s.items blocks
  groupBy : s.groupBy ≠ [] →
    List.Forall₂ (ColumnPosition.Follows blocks) s.groupBy r.groupBy
  orderBy : s.orderBy ≠ [] → List.Forall₂ (fun entry moved =>
    entry.target.Follows blocks moved.target ∧
      moved.descending = entry.descending) s.orderBy r.orderBy
  refers : r.Refers

/-! ## Entries -/

theorem SelectItem.Keeps.refl (item : SelectItem) : item.Keeps item :=
  ⟨rfl, rfl, fun _ hfunction => hfunction, id⟩

theorem SelectItem.Keeps.trans {item image other : SelectItem}
    (h : item.Keeps image) (h' : image.Keeps other) : item.Keeps other where
  label := h'.label.trans h.label
  star := h'.star.trans h.star
  function := fun function hfunction =>
    h'.function function (h.function function hfunction)
  distinct := fun hdistinct => h'.distinct (h.distinct hdistinct)

theorem TableColumn.ShownAs.trans {column : TableColumn}
    {image other : SelectItem} (h : column.ShownAs image)
    (h' : image.Keeps other) : column.ShownAs other where
  label := h'.label.trans h.label
  star := h'.star.trans h.star
  method := by
    intro name hname
    obtain ⟨function, hfunction, himage⟩ := h.method name hname
    exact ⟨function, hfunction, h'.function function himage⟩
  distinct := fun hdistinct => h'.distinct (h.distinct hdistinct)

theorem Table.ShowsAs.trans {source : Table} {item : SelectItem}
    {block block' : List SelectItem} (h : source.ShowsAs item block)
    (h' : List.Forall₂ SelectItem.Keeps block block') :
    source.ShowsAs item block' := by
  unfold Table.ShowsAs at h ⊢
  by_cases hstar : source.isView = true ∧ item.isStar = true
  · rw [if_pos hstar] at h ⊢
    exact List.forall₂_comp h h' fun _ _ _ => TableColumn.ShownAs.trans
  · rw [if_neg hstar] at h ⊢
    obtain ⟨image, rfl, himage⟩ := h
    obtain ⟨other, rest, hother, hrest, rfl⟩ := List.forall₂_cons_left_iff.mp h'
    rw [List.forall₂_nil_left_iff] at hrest
    exact ⟨other, by rw [hrest], himage.trans hother⟩

theorem Select.Carries.refl (s : Select) : s.Carries s where
  items := List.forall₂_same.mpr fun item _ => SelectItem.Keeps.refl item
  groupBy := fun _ => rfl
  orderBy := fun _ => rfl

theorem Select.Carries.trans {s t r : Select} (h : s.Carries t)
    (h' : t.Carries r) : s.Carries r := by
  refine ⟨List.forall₂_comp h.items h'.items fun _ _ _ =>
    SelectItem.Keeps.trans, ?_, ?_⟩
  · intro hs
    have ht := List.ne_nil_of_map_eq_map (h.groupBy hs) hs
    exact (h'.groupBy ht).trans (h.groupBy hs)
  · intro hs
    have ht := List.ne_nil_of_map_eq_map (h.orderBy hs) hs
    exact (h'.orderBy ht).trans (h.orderBy hs)

namespace Plan

theorem keeps_of_mapItem {table : Table} {item image : SelectItem}
    (hstar : item.isStar = false) (h : mapItem table item = .ok image) :
    item.Keeps image := by
  refine ⟨label_of_mapItem h, (isStar_of_mapItem hstar h).trans hstar.symm, ?_,
    ?_⟩
  · intro function hfunction
    rcases mapItem_eq_ok_iff.mp h with ⟨-, rfl⟩ | ⟨-, column, -, hcolumn⟩
    · exact hfunction
    · obtain ⟨mapped, hmapped, rfl⟩ := Except.map_eq_ok_iff.mp hcolumn
      rw [mappedMethod, Option.mem_def.mp hfunction] at hmapped
      exact (Except.ok.inj hmapped).symm
  · intro hdistinct
    rcases mapItem_eq_ok_iff.mp h with ⟨-, rfl⟩ | ⟨-, column, -, hcolumn⟩
    · exact hdistinct
    · obtain ⟨mapped, -, rfl⟩ := Except.map_eq_ok_iff.mp hcolumn
      simp [hdistinct]

theorem shownAs_of_expandColumn {column : TableColumn} {image : SelectItem}
    (h : expandColumn column = .ok image) : column.ShownAs image := by
  have hstar := isStar_of_expandColumn h
  obtain ⟨function, hmethod, rfl⟩ := Except.map_eq_ok_iff.mp h
  refine ⟨rfl, hstar, ?_, id⟩
  intro name hname
  rw [viewMethod, Option.mem_def.mp hname] at hmethod
  cases hknown : AggregateFunction.ofName? name with
  | none => simp [hknown] at hmethod
  | some known =>
      simp only [hknown] at hmethod
      exact ⟨known, rfl, (Except.ok.inj hmethod).symm⟩

theorem showsAs_of_images {table : Table} (hview : table.isView = true)
    {item : SelectItem} {block : List SelectItem}
    (h : images table item = .ok block) : table.ShowsAs item block := by
  unfold Table.ShowsAs
  rcases images_eq_ok_iff.mp h with ⟨hstar, hexpanded⟩ | ⟨hstar, image,
    himage, rfl⟩
  · rw [if_pos ⟨hview, hstar⟩]
    exact hexpanded.imp fun _ _ => shownAs_of_expandColumn
  · rw [if_neg (by simp [hstar])]
    exact ⟨image, rfl, keeps_of_mapItem hstar himage⟩

/-! ## Positions -/

theorem refersTo_of_positionAt? {items : List SelectItem} {i : Nat}
    {p : ColumnPosition} (h : positionAt? items i = some p) :
    p.RefersTo items := by
  obtain ⟨hlt, rfl⟩ := positionAt?_eq_some_iff.mp h
  exact ⟨items[i], itemAt?_eq_some_iff.mpr ⟨by simp, by simp⟩, rfl⟩

/-- The positions of a merged statement carry the columns of its entries. -/
theorem refers_of_merge {today : Day} {s r : Select} {table : Table}
    {view : View} (h : merge today s table view = .ok r) : r.Refers := by
  obtain ⟨blocks, conditions, during, -, -, -, rfl⟩ := merge_eq_ok_iff.mp h
  constructor
  · intro p hp
    obtain ⟨i, hi⟩ := exists_positionAt?_of_mem_mergeGroupBy hp
    exact refersTo_of_positionAt? hi
  · intro entry hentry
    obtain ⟨i, hi⟩ := exists_positionAt?_of_mem_mergeOrderBy hentry
    exact refersTo_of_positionAt? hi

theorem refers_of_unfoldWithin {catalog : Catalog} {today : Day} {depth : Nat}
    {s r : Select} (hs : s.Refers)
    (h : unfoldWithin catalog today depth s = .ok r) : r.Refers :=
  (unfoldWithin_induction Select.Refers
    (fun _ _ _ _ _ _ hmerge _ => refers_of_merge hmerge) hs h).1

/-! ## One view -/

theorem ne_nil_of_showsAs {source : Table} (hcolumns : source.columns ≠ [])
    {item : SelectItem} {block : List SelectItem}
    (h : source.ShowsAs item block) : block ≠ [] := by
  unfold Table.ShowsAs at h
  split at h
  · rintro rfl
    exact hcolumns (List.forall₂_nil_right_iff.mp h)
  · obtain ⟨image, rfl, -⟩ := h
    simp

theorem exists_block {blocks : List (List SelectItem)}
    (hne : ∀ block ∈ blocks, block ≠ []) {p : ColumnPosition}
    (hp : p.InRange blocks.length) :
    ∃ image rest, blocks[p.position - 1]? = some (image :: rest) := by
  obtain ⟨hone, hle⟩ := hp
  have hlt : p.position - 1 < blocks.length := by omega
  obtain ⟨image, rest, hblock⟩ :=
    List.exists_cons_of_ne_nil (hne _ (List.getElem_mem hlt))
  exact ⟨image, rest, List.getElem?_eq_some_iff.mpr ⟨hlt, hblock⟩⟩

/-- It is enough that the position is that of the first image, and carries the
column there. -/
theorem follows_of_refersTo {blocks : List (List SelectItem)}
    (hne : ∀ block ∈ blocks, block ≠ []) {p q : ColumnPosition}
    (hp : p.InRange blocks.length) (hq : q.RefersTo blocks.flatten)
    (hposition : q.position = imagePosition blocks p) : p.Follows blocks q := by
  obtain ⟨image, rest, hblock⟩ := exists_block hne hp
  obtain ⟨item, hitem, hcolumn⟩ := hq
  rw [itemAt?_eq_some_iff, hposition] at hitem
  have hfirst := hitem.2.symm.trans (List.getElem?_flatten_of_getElem? hblock)
  obtain rfl := Option.some.inj hfirst
  exact ⟨item, rest, hblock, by rw [← hcolumn, ← hposition]⟩

/-- Where every entry has images a position of the statement moves to the first
of them. -/
theorem map_position_remapPosition_of_ne_nil {blocks : List (List SelectItem)}
    (hne : ∀ block ∈ blocks, block ≠ []) {p : ColumnPosition}
    (hp : p.InRange blocks.length) :
    (remapPosition blocks p).map ColumnPosition.position =
      some (imagePosition blocks p) := by
  obtain ⟨image, rest, hblock⟩ := exists_block hne hp
  have hfirst := List.getElem?_flatten_of_getElem? hblock
  rw [remapPosition, if_pos ⟨hp.1, hp.2⟩, positionAt?, hfirst]
  rfl

theorem carries_of_merge {today : Day} {s r : Select} (hs : s.Aligned)
    {table : Table} {view : View} (h : merge today s table view = .ok r) :
    s.Carries r := by
  obtain ⟨mapped, conditions, during, hmapped, -, -, rfl⟩ :=
    (merge_eq_ok_iff_of_aligned hs).mp h
  have hlength := hmapped.length_eq
  refine ⟨?_, ?_, ?_⟩
  · apply List.forall₂_imp_of_mem hmapped
    intro item hitem image _ himage
    exact keeps_of_mapItem (hs.star item hitem) himage
  · intro hgroupBy
    rw [positions_mergeGroupBy (hlength ▸ hs.groupBy), if_neg hgroupBy]
  · intro horderBy
    rw [places_mergeOrderBy (hlength ▸ hs.orderBy), if_neg horderBy]

/-! ## Whole chains -/

/-- Below the first view every entry has one image and no position moves. -/
theorem carries_of_unfoldWithin {catalog : Catalog} {today : Day} {depth : Nat}
    {s r : Select} (hs : s.Aligned)
    (h : unfoldWithin catalog today depth s = .ok r) : s.Carries r := by
  have hkept := unfoldWithin_induction (fun t => t.Aligned ∧ s.Carries t) ?_
    ⟨hs, Select.Carries.refl s⟩ h
  · exact hkept.1.2
  · rintro t table view merged - - hmerge ⟨ht, hcarries⟩
    exact ⟨aligned_of_merge hmerge, hcarries.trans (carries_of_merge ht hmerge)⟩

/-- The blocks of a statement are found in every statement that carries one
made of them. -/
theorem exists_keptBy_of_carries {source : Table} {s t r : Select}
    {blocks : List (List SelectItem)} (hs : s.Refers)
    (hcolumns : source.columns ≠ []) (hcarries : t.Carries r) (hr : r.Refers)
    (hblocks : List.Forall₂ source.ShowsAs s.items blocks)
    (hitems : t.items = blocks.flatten)
    (hgroupBy : s.groupBy ≠ [] →
      t.groupBy.map ColumnPosition.position =
      s.groupBy.map (imagePosition blocks))
    (horderBy : s.orderBy ≠ [] →
      t.orderBy.map OrderEntry.place =
      s.orderBy.map fun entry =>
        (imagePosition blocks entry.target, entry.descending)) :
    ∃ cut, s.KeptBy source cut r := by
  obtain ⟨cut, hcut, hflatten⟩ :=
    List.exists_flatten_of_forall₂ (hitems ▸ hcarries.items)
  have himages : List.Forall₂ source.ShowsAs s.items cut :=
    List.forall₂_comp hblocks hcut fun _ _ _ => Table.ShowsAs.trans
  have hne : ∀ block ∈ cut, block ≠ [] := by
    intro block hblock
    obtain ⟨item, -, hitem⟩ := List.exists_left_of_forall₂ himages hblock
    exact ne_nil_of_showsAs hcolumns hitem
  have hmoved : ∀ p, imagePosition blocks p = imagePosition cut p := by
    intro p
    rw [imagePosition, imagePosition, List.length_flatten_take_of_forall₂ hcut]
  have hfollows : ∀ {p q : ColumnPosition}, p.RefersTo s.items →
      q.RefersTo r.items →
      q.position = imagePosition blocks p → p.Follows cut q := by
    intro p q hp hq hposition
    exact follows_of_refersTo hne (himages.length_eq ▸ hp.bounds)
      (hflatten ▸ hq) (hposition.trans (hmoved p))
  refine ⟨cut, hflatten.symm, himages, ?_, ?_, hr⟩
  · intro hown
    have ht := List.ne_nil_of_map_eq_map (hgroupBy hown) hown
    have hpositions := (hcarries.groupBy ht).trans (hgroupBy hown)
    apply List.forall₂_imp_of_mem (List.forall₂_of_map_eq_map hpositions.symm)
    intro p hp q hq hposition
    exact hfollows (hs.groupBy p hp) (hr.groupBy q hq) hposition.symm
  · intro hown
    have ht := List.ne_nil_of_map_eq_map (horderBy hown) hown
    have hplaces := (hcarries.orderBy ht).trans (horderBy hown)
    apply List.forall₂_imp_of_mem (List.forall₂_of_map_eq_map hplaces.symm)
    intro entry hentry moved hmoved hplace
    obtain ⟨hposition, hdescending⟩ := Prod.mk.inj hplace
    exact ⟨hfollows (hs.orderBy entry hentry) (hr.orderBy moved hmoved)
      hposition.symm, hdescending.symm⟩

theorem exists_keptBy_report {source : Table} (hreport : source.view = none)
    (hcolumns : source.columns ≠ []) {s : Select} (hs : s.Refers) :
    ∃ blocks, s.KeptBy source blocks s := by
  have hstay : ∀ {p : ColumnPosition}, p.RefersTo s.items →
      p.position = imagePosition (s.items.map fun item => [item]) p := by
    intro p hp
    obtain ⟨hone, hle⟩ := hp.bounds
    rw [imagePosition, ← List.map_take, flatten_singletons, List.length_take]
    omega
  have hshown : List.Forall₂ source.ShowsAs s.items
      (s.items.map fun item => [item]) := by
    rw [List.forall₂_map_right_iff, List.forall₂_same]
    intro item _
    rw [Table.ShowsAs, if_neg (by simp [Table.isView, hreport])]
    exact ⟨item, rfl, SelectItem.Keeps.refl item⟩
  apply exists_keptBy_of_carries hs hcolumns (Select.Carries.refl s) hs hshown
  · rw [flatten_singletons]
  · intro _
    exact List.map_congr_left fun p hp => hstay (hs.groupBy p hp)
  · intro _
    apply List.map_congr_left
    intro entry hentry
    rw [← hstay (hs.orderBy entry hentry)]
    rfl

theorem exists_keptBy_of_merge {source : Table} {view : View}
    (hview : source.view = some view) (hcolumns : source.columns ≠ [])
    {today : Day} {s merged r : Select} (hs : s.Refers)
    (hmerge : merge today s source view = .ok merged)
    (hcarries : merged.Carries r) (hr : r.Refers) :
    ∃ blocks, s.KeptBy source blocks r := by
  have hisView : source.isView = true := by simp [Table.isView, hview]
  obtain ⟨blocks, conditions, during, hblocks, -, -, rfl⟩ :=
    merge_eq_ok_iff.mp hmerge
  have hshown := hblocks.imp fun _ _ => showsAs_of_images hisView
  have hne : ∀ block ∈ blocks, block ≠ [] := by
    intro block hblock
    obtain ⟨item, -, hitem⟩ := List.exists_left_of_forall₂ hshown hblock
    exact ne_nil_of_showsAs hcolumns hitem
  have hmoves : ∀ {p : ColumnPosition}, p.RefersTo s.items →
      (remapPosition blocks p).map ColumnPosition.position =
      some (imagePosition blocks p) :=
    fun hp => map_position_remapPosition_of_ne_nil hne
      (hblocks.length_eq ▸ hp.bounds)
  apply exists_keptBy_of_carries hs hcolumns hcarries hr hshown rfl
  · intro hown
    exact positions_mergeGroupBy_of_ne_nil hown fun p hp =>
      hmoves (hs.groupBy p hp)
  · intro hown
    exact places_mergeOrderBy_of_ne_nil hown fun entry hentry =>
      hmoves (hs.orderBy entry hentry)

/-- Unfolding keeps the entries, the GROUP BY and the ORDER BY of a
statement. -/
theorem keptBy_of_unfold {catalog : Catalog}
    (hcolumns : ∀ table ∈ catalog.tables, table.columns ≠ []) {today : Day}
    {s r : Select} (hs : s.Parsed) (h : unfold catalog today s = .ok r) :
    ∃ source blocks, catalog.table? s.source = some source ∧
      s.KeptBy source blocks r := by
  have hrefers : s.Refers := ⟨hs.wellFormed.groupBy, hs.wellFormed.orderBy⟩
  obtain ⟨source, hsource, hcases⟩ := unfoldWithin_succ_eq_ok_iff.mp h
  have hne := hcolumns source (List.mem_of_find?_eq_some hsource)
  rcases hcases with ⟨hreport, rfl⟩ | ⟨view, merged, hview, hmerge, hrest⟩
  · obtain ⟨blocks, hkept⟩ := exists_keptBy_report hreport hne hrefers
    exact ⟨source, blocks, hsource, hkept⟩
  · have hcarries := carries_of_unfoldWithin (aligned_of_merge hmerge) hrest
    have hr := refers_of_unfoldWithin (refers_of_merge hmerge) hrest
    obtain ⟨blocks, hkept⟩ :=
      exists_keptBy_of_merge hview hne hrefers hmerge hcarries hr
    exact ⟨source, blocks, hsource, hkept⟩

/-- A report of sales, a view of their sums, and a view on top that keeps two
rows. -/
def townCatalog : Catalog where
  version := "v1"
  tables := [
    { name := "SALES"
      aggregateColumn := "Town"
      columns := [{ name := "Town" }, { name := "Day" },
        { name := "Amount", kind := "MONEY" }] },
    { name := "DAILY"
      aggregateColumn := "Town"
      columns := [
        { name := "Town" },
        { name := "Day", aliasName := some "date" },
        { name := "Amount", aliasName := some "total", kind := "MONEY",
          method := some "SUM" }]
      view := some {
        source := "SALES"
        primaryKey := "Town"
        groupBy := [⟨{ name := "Town" }, 1⟩, ⟨{ name := "Day" }, 2⟩] } },
    { name := "BEST"
      aggregateColumn := "Town"
      columns := [
        { name := "Town", aliasName := some "place" },
        { name := "total", kind := "MONEY" }]
      view := some {
        source := "DAILY"
        primaryKey := "Town"
        limit := some ⟨0, 2⟩ } }]

/-- Entries before and after a star, with positions that stand for each of
them. -/
def townSelect : Select where
  items := [
    { column := { name := "total", aliasName := some "amount" },
      function := some .max },
    { column := { name := starName } },
    { column := { name := "place" }, distinct := true }]
  source := "BEST"
  groupBy := [⟨{ name := "place" }, 3⟩, ⟨{ name := starName }, 2⟩]
  orderBy := [
    ⟨⟨{ name := "place" }, 3⟩, true⟩,
    ⟨⟨{ name := "total", aliasName := some "amount" }, 1⟩, false⟩]

/-- The star takes two places, which moves the third entry to the fourth. -/
def townUnfolded : Select where
  items := [
    { column := { name := "Amount", aliasName := some "amount" },
      function := some .max },
    { column := { name := "Town", aliasName := some "place" } },
    { column := { name := "Amount", aliasName := some "total" },
      function := some .sum },
    { column := { name := "Town", aliasName := some "place" },
      distinct := true }]
  source := "SALES"
  groupBy := [
    ⟨{ name := "Town", aliasName := some "place" }, 4⟩,
    ⟨{ name := "Town", aliasName := some "place" }, 2⟩]
  orderBy := [
    ⟨⟨{ name := "Town", aliasName := some "place" }, 4⟩, true⟩,
    ⟨⟨{ name := "Amount", aliasName := some "amount" }, 1⟩, false⟩]
  limit := some ⟨0, 2⟩

theorem keptBy_townUnfolded :
    unfold townCatalog (Day.ofCount 0) townSelect = .ok townUnfolded ∧
      ∃ source blocks, townCatalog.table? "BEST" = some source ∧
        townSelect.KeptBy source blocks townUnfolded := by
  have hparse : parseStatement
      ("SELECT MAX(total) AS amount, *, DISTINCT place FROM BEST " ++
        "GROUP BY 3, 2 ORDER BY 3 DESC, 1") =
        .ok (.select townSelect) := by
    decide +kernel
  have hunfolds : unfold townCatalog (Day.ofCount 0) townSelect =
      .ok townUnfolded := by
    decide +kernel
  have hcolumns : ∀ table ∈ townCatalog.tables, table.columns ≠ [] := by decide
  exact ⟨hunfolds, keptBy_of_unfold hcolumns
    (Or.inl (parsed_of_parseStatement hparse)) hunfolds⟩

end Plan

end ReportQuery
