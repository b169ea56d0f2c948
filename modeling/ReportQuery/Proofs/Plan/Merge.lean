import ReportQuery.Plan.Unfold
import ReportQuery.Proofs.Calendar.Spans
import ReportQuery.Proofs.Lists
import ReportQuery.Proofs.Results

/-!
# Merging a statement with a view

What a merged statement is made of. Every entry of the select list has a block
of images; an entry that is no star has one image, which keeps its label. When
no entry is a star the positions of the statement stay as they are.
-/

namespace ReportQuery

/-- A position that stands for one of `n` entries. -/
def ColumnPosition.InRange (p : ColumnPosition) (n : Nat) : Prop :=
  1 ≤ p.position ∧ p.position ≤ n

/-- No entry of the select list is a star, and the positions stand for
entries. -/
structure Select.Aligned (s : Select) : Prop where
  star : ∀ item ∈ s.items, item.isStar = false
  groupBy : ∀ p ∈ s.groupBy, p.InRange s.items.length
  orderBy : ∀ entry ∈ s.orderBy, entry.target.InRange s.items.length

namespace Plan

/-- A merged statement has the blocks of its entries, the conditions and the
days of both. -/
theorem merge_eq_ok_iff {today : Day} {s r : Select} {table : Table}
    {view : View} :
    merge today s table view = .ok r ↔
      ∃ blocks conditions during,
        List.Forall₂ (fun item block => images table item = .ok block)
          s.items blocks ∧
        mergeConditions s.conditions view.conditions table = .ok conditions ∧
        mergeDuring today s.during view.during = .ok during ∧
        r = {
          items := blocks.flatten
          source := view.source
          conditions
          during
          groupBy := mergeGroupBy s.groupBy view.groupBy table blocks
          orderBy := mergeOrderBy s.orderBy view.orderBy table blocks
          limit := mergeLimit s.limit view.limit
          terminator := s.terminator } := by
  constructor
  · intro h
    obtain ⟨blocks, hblocks, h⟩ := Except.bind_eq_ok_iff.mp h
    obtain ⟨conditions, hconditions, h⟩ := Except.bind_eq_ok_iff.mp h
    obtain ⟨during, hduring, h⟩ := Except.bind_eq_ok_iff.mp h
    exact ⟨blocks, conditions, during, Except.mapM_eq_ok_iff.mp hblocks,
      hconditions, hduring, (Except.ok.inj h).symm⟩
  · rintro ⟨blocks, conditions, during, hblocks, hconditions, hduring, rfl⟩
    refine Except.bind_eq_ok_iff.mpr
      ⟨blocks, Except.mapM_eq_ok_iff.mpr hblocks, ?_⟩
    refine Except.bind_eq_ok_iff.mpr ⟨conditions, hconditions, ?_⟩
    exact Except.bind_eq_ok_iff.mpr ⟨during, hduring, rfl⟩

/-! ## Images of entries -/

/-- An entry stands for a column of the table, unless it counts rows. -/
theorem mapItem_eq_ok_iff {table : Table} {item image : SelectItem} :
    mapItem table item = .ok image ↔
      (item.name = starName ∧ item = image) ∨
        (item.name ≠ starName ∧
          ∃ column, table.column? item.name = some column ∧
            mapColumn item column = .ok image) := by
  rw [mapItem]
  by_cases hname : item.name = starName
  · simp [hname]
  · cases hcolumn : table.column? item.name <;> simp [hname]

/-- A star has an image for every column, any other entry has one image. -/
theorem images_eq_ok_iff {table : Table} {item : SelectItem}
    {block : List SelectItem} :
    images table item = .ok block ↔
      (item.isStar = true ∧
        List.Forall₂ (fun column image => expandColumn column = .ok image)
          table.columns block) ∨
        (item.isStar = false ∧ ∃ image, mapItem table item = .ok image ∧
          [image] = block) := by
  rw [images]
  cases hstar : item.isStar with
  | true => simp [Except.mapM_eq_ok_iff]
  | false => simp [Except.map_eq_ok_iff]

theorem images_of_not_star {item : SelectItem} (h : item.isStar = false)
    (table : Table) :
    images table item = (mapItem table item).map fun image => [image] := by
  simp [images, h]

/-- The blocks of entries that are no stars have one image each. -/
theorem forall₂_images_iff {table : Table} {items : List SelectItem}
    (h : ∀ item ∈ items, item.isStar = false)
    {blocks : List (List SelectItem)} :
    List.Forall₂ (fun item block => images table item = .ok block)
      items blocks ↔
      ∃ mapped, List.Forall₂ (fun item image => mapItem table item = .ok image)
        items mapped ∧ blocks = mapped.map fun image => [image] := by
  induction items generalizing blocks with
  | nil => simp
  | cons item rest ih =>
      rw [List.forall₂_cons_left_iff]
      constructor
      · rintro ⟨block, tail, hblock, htail, rfl⟩
        rw [images_of_not_star (h item (by simp))] at hblock
        obtain ⟨image, himage, rfl⟩ := Except.map_eq_ok_iff.mp hblock
        obtain ⟨mapped, hmapped, rfl⟩ :=
          (ih fun other hother => h other (by simp [hother])).mp htail
        exact ⟨image :: mapped, .cons himage hmapped, rfl⟩
      · rintro ⟨mapped, hmapped, rfl⟩
        obtain ⟨image, tail, himage, htail, rfl⟩ :=
          List.forall₂_cons_left_iff.mp hmapped
        refine ⟨[image], _, ?_,
          (ih fun other hother => h other (by simp [hother])).mpr
          ⟨tail, htail, rfl⟩, rfl⟩
        rw [images_of_not_star (h item (by simp))]
        exact Except.map_eq_ok_iff.mpr ⟨image, himage, rfl⟩

theorem label_of_mapColumn {item image : SelectItem} {column : TableColumn}
    (h : mapColumn item column = .ok image) : image.label = item.label := by
  obtain ⟨function, -, rfl⟩ := Except.map_eq_ok_iff.mp h
  exact Option.getD_filter_ne (some item.label) column.name

/-- The image of an entry is shown under the same name. -/
theorem label_of_mapItem {table : Table} {item image : SelectItem}
    (h : mapItem table item = .ok image) : image.label = item.label := by
  rcases mapItem_eq_ok_iff.mp h with ⟨-, rfl⟩ | ⟨-, column, -, hcolumn⟩
  · rfl
  · exact label_of_mapColumn hcolumn

theorem labels_of_mapped {table : Table} {items mapped : List SelectItem}
    (h : List.Forall₂ (fun item image => mapItem table item = .ok image)
      items mapped) :
    mapped.map SelectItem.label = items.map SelectItem.label := by
  induction h with
  | nil => rfl
  | cons himage _ ih =>
      rw [List.map_cons, List.map_cons, label_of_mapItem himage, ih]

/-- A star without method counts rows once a view is gone through, so it is no
star. -/
theorem isStar_of_viewMethod {column : TableColumn}
    {function : Option AggregateFunction}
    (h : viewMethod column = .ok function) :
    (column.name == starName && function.isNone) = false := by
  rw [viewMethod] at h
  split at h
  · split at h
    · obtain rfl := Except.ok.inj h
      simp
    · simp at h
  · obtain rfl := Except.ok.inj h
    by_cases hname : column.name = starName <;> simp [hname]

theorem isStar_of_mapColumn {item image : SelectItem} {column : TableColumn}
    (h : mapColumn item column = .ok image) : image.isStar = false := by
  obtain ⟨function, hmethod, rfl⟩ := Except.map_eq_ok_iff.mp h
  rw [mappedMethod] at hmethod
  split at hmethod
  · obtain rfl := Except.ok.inj hmethod
    simp [SelectItem.isStar]
  · exact isStar_of_viewMethod hmethod

theorem isStar_of_mapItem {table : Table} {item image : SelectItem}
    (hstar : item.isStar = false) (h : mapItem table item = .ok image) :
    image.isStar = false := by
  rcases mapItem_eq_ok_iff.mp h with ⟨-, rfl⟩ | ⟨-, column, -, hcolumn⟩
  · exact hstar
  · exact isStar_of_mapColumn hcolumn

theorem isStar_of_expandColumn {column : TableColumn} {image : SelectItem}
    (h : expandColumn column = .ok image) : image.isStar = false := by
  obtain ⟨function, hmethod, rfl⟩ := Except.map_eq_ok_iff.mp h
  exact isStar_of_viewMethod hmethod

/-- No image is a star: stars are gone after one view. -/
theorem isStar_of_images {table : Table} {item : SelectItem}
    {block : List SelectItem} (h : images table item = .ok block) :
    ∀ image ∈ block, image.isStar = false := by
  intro image himage
  rcases images_eq_ok_iff.mp h with ⟨-, hexpanded⟩ | ⟨hstar, only, honly, rfl⟩
  · obtain ⟨column, -, hexpand⟩ := List.exists_left_of_forall₂ hexpanded himage
    exact isStar_of_expandColumn hexpand
  · obtain rfl := List.mem_singleton.mp himage
    exact isStar_of_mapItem hstar honly

/-! ## Positions -/

theorem positionAt?_eq_some_iff {items : List SelectItem} {i : Nat}
    {p : ColumnPosition} :
    positionAt? items i = some p ↔
      ∃ h : i < items.length, p = ⟨items[i].column, i + 1⟩ := by
  rw [positionAt?, Option.map_eq_some_iff]
  constructor
  · rintro ⟨item, hitem, rfl⟩
    obtain ⟨hlt, rfl⟩ := List.getElem?_eq_some_iff.mp hitem
    exact ⟨hlt, rfl⟩
  · rintro ⟨hlt, rfl⟩
    exact ⟨items[i], by simp, rfl⟩

theorem inRange_of_positionAt? {items : List SelectItem} {i : Nat}
    {p : ColumnPosition} (h : positionAt? items i = some p) :
    p.InRange items.length := by
  obtain ⟨hlt, rfl⟩ := positionAt?_eq_some_iff.mp h
  exact ⟨by simp, hlt⟩

theorem exists_positionAt?_of_remapPosition {blocks : List (List SelectItem)}
    {p q : ColumnPosition} (h : remapPosition blocks p = some q) :
    ∃ i, positionAt? blocks.flatten i = some q := by
  rw [remapPosition] at h
  split at h
  · exact ⟨_, h⟩
  · simp at h

theorem exists_positionAt?_of_adoptPosition {table : Table}
    {items : List SelectItem} {p q : ColumnPosition}
    (h : adoptPosition table items p = some q) :
    ∃ i, positionAt? items i = some q := by
  obtain ⟨i, -, hi⟩ := Option.bind_eq_some_iff.mp h
  exact ⟨i, hi⟩

/-- A position within the columns of a table has the source name of its
column. -/
theorem sourceName_of_inRange {table : Table} {p : ColumnPosition}
    (hp : p.InRange table.columns.length) :
    ∃ h : p.position - 1 < table.columns.length,
      sourceName table p = table.columns[p.position - 1].name := by
  obtain ⟨hone, hle⟩ := hp
  have hlt : p.position - 1 < table.columns.length := by omega
  refine ⟨hlt, ?_⟩
  rw [sourceName, if_neg (by omega), List.getElem?_eq_getElem hlt]
  rfl

theorem flatten_singletons (items : List SelectItem) :
    (items.map fun image => [image]).flatten = items := by
  simp [← List.flatMap_def]

/-- Where no entry is a star a position of the statement stays. -/
theorem remapPosition_singletons {items : List SelectItem} {p : ColumnPosition}
    (h : p.InRange items.length) :
    remapPosition (items.map fun image => [image]) p =
      positionAt? items (p.position - 1) := by
  obtain ⟨hone, hle⟩ := h
  rw [remapPosition, if_pos ⟨hone, by simpa using hle⟩, ← List.map_take,
    flatten_singletons, flatten_singletons, List.length_take,
    Nat.min_eq_left (by omega)]

theorem mem_distinctPositions {positions : List ColumnPosition}
    {p : ColumnPosition} (h : p ∈ distinctPositions positions) :
    p ∈ positions := by
  have hfold : ∀ kept : List ColumnPosition,
      p ∈ positions.foldl
        (fun kept p =>
          if kept.any (fun q => q.position == p.position) then kept
          else kept ++ [p])
        kept → p ∈ kept ∨ p ∈ positions := by
    clear h
    induction positions with
    | nil => simp
    | cons q rest ih =>
        intro kept hmem
        rw [List.foldl_cons] at hmem
        rcases ih _ hmem with hkept | hrest
        · split at hkept
          · exact Or.inl hkept
          · rcases List.mem_append.mp hkept with hold | hnew
            · exact Or.inl hold
            · exact Or.inr (by simp_all)
        · exact Or.inr (by simp [hrest])
  simpa using hfold [] h

/-- A position of a merged GROUP BY clause is that of an image. -/
theorem exists_positionAt?_of_mem_mergeGroupBy {own shown : List ColumnPosition}
    {table : Table} {blocks : List (List SelectItem)} {p : ColumnPosition}
    (h : p ∈ mergeGroupBy own shown table blocks) :
    ∃ i, positionAt? blocks.flatten i = some p := by
  simp only [mergeGroupBy] at h
  split at h
  · obtain ⟨q, -, hq⟩ := List.mem_filterMap.mp (mem_distinctPositions h)
    exact exists_positionAt?_of_adoptPosition hq
  · obtain ⟨q, -, hq⟩ := List.mem_filterMap.mp h
    exact exists_positionAt?_of_remapPosition hq

theorem exists_positionAt?_of_mem_mergeOrderBy {own shown : List OrderEntry}
    {table : Table} {blocks : List (List SelectItem)} {entry : OrderEntry}
    (h : entry ∈ mergeOrderBy own shown table blocks) :
    ∃ i, positionAt? blocks.flatten i = some entry.target := by
  simp only [mergeOrderBy] at h
  split at h
  · obtain ⟨other, -, hother⟩ := List.mem_filterMap.mp h
    obtain ⟨target, htarget, rfl⟩ := Option.map_eq_some_iff.mp hother
    exact exists_positionAt?_of_adoptPosition htarget
  · obtain ⟨other, -, hother⟩ := List.mem_filterMap.mp h
    obtain ⟨target, htarget, rfl⟩ := Option.map_eq_some_iff.mp hother
    exact exists_positionAt?_of_remapPosition htarget

/-! ## Merged days -/

theorem mergeDuring_none (today : Day) (shown : Option During) :
    mergeDuring today none shown = .ok shown := by
  cases shown <;> rfl

/-- Only a span that is written out can end before it begins. -/
theorem eq_of_resolveDays_eq {today : Day} {own shown : During}
    (h : resolveDays today own = resolveDays today shown)
    (hreversed : ¬ (resolveDays today own).Ordered) : own = shown := by
  cases own with
  | named range => exact absurd (range.ordered_resolve today) hreversed
  | days span =>
      cases shown with
      | named range => exact absurd (h ▸ range.ordered_resolve today) hreversed
      | days other => exact congrArg During.days h

/-- Clauses whose days meet are merged into their common days, all others are
refused. -/
theorem mergeDuring_cases (today : Day) (own shown : During) :
    ((resolveDays today own).Meets (resolveDays today shown) ∧
        ∃ during, mergeDuring today (some own) (some shown) =
          .ok (some during) ∧ resolveDays today during =
            (resolveDays today own).common (resolveDays today shown)) ∨
      (¬ (resolveDays today own).Meets (resolveDays today shown) ∧
        mergeDuring today (some own) (some shown) =
          .error (.outOfScope (.disjointDays own shown))) := by
  simp only [mergeDuring]
  by_cases hsame : own = shown
  · subst hsame
    exact Or.inl ⟨Or.inl rfl, own, if_pos rfl, (DaySpan.common_self _).symm⟩
  · rw [if_neg hsame]
    split
    · next hapart =>
        refine Or.inr ⟨?_, rfl⟩
        rintro (heq | hmeet)
        · refine hsame (eq_of_resolveDays_eq heq ?_)
          simp only [DaySpan.Ordered, heq, Day.le_iff_count_le,
            Day.lt_iff_count_lt] at hapart ⊢
          omega
        · simp only [Day.le_iff_count_le, Day.lt_iff_count_lt] at hapart hmeet
          omega
    · next hmeet =>
        refine Or.inl ⟨Or.inr ?_, _, rfl, rfl⟩
        simp only [Day.le_iff_count_le, Day.lt_iff_count_lt] at hmeet ⊢
        omega

/-! ## Aligned statements -/

/-- A merged statement is aligned, whatever it is made of. -/
theorem aligned_of_merge {today : Day} {s r : Select} {table : Table}
    {view : View} (h : merge today s table view = .ok r) : r.Aligned := by
  obtain ⟨blocks, conditions, during, hblocks, -, -, rfl⟩ :=
    merge_eq_ok_iff.mp h
  refine ⟨?_, ?_, ?_⟩
  · intro image himage
    obtain ⟨block, hblock, himage⟩ := List.mem_flatten.mp himage
    obtain ⟨item, -, hitem⟩ := List.exists_left_of_forall₂ hblocks hblock
    exact isStar_of_images hitem image himage
  · intro p hp
    obtain ⟨i, hi⟩ := exists_positionAt?_of_mem_mergeGroupBy hp
    exact inRange_of_positionAt? hi
  · intro entry hentry
    obtain ⟨i, hi⟩ := exists_positionAt?_of_mem_mergeOrderBy hentry
    exact inRange_of_positionAt? hi

/-- Merging an aligned statement: every entry has its image. -/
theorem merge_eq_ok_iff_of_aligned {today : Day} {s r : Select} (hs : s.Aligned)
    {table : Table} {view : View} :
    merge today s table view = .ok r ↔
      ∃ mapped conditions during,
        List.Forall₂ (fun item image => mapItem table item = .ok image)
          s.items mapped ∧
        mergeConditions s.conditions view.conditions table = .ok conditions ∧
        mergeDuring today s.during view.during = .ok during ∧
        r = {
          items := mapped
          source := view.source
          conditions
          during
          groupBy := mergeGroupBy s.groupBy view.groupBy table
            (mapped.map fun image => [image])
          orderBy := mergeOrderBy s.orderBy view.orderBy table
            (mapped.map fun image => [image])
          limit := mergeLimit s.limit view.limit
          terminator := s.terminator } := by
  rw [merge_eq_ok_iff]
  constructor
  · rintro ⟨blocks, conditions, during, hblocks, hconditions, hduring, rfl⟩
    obtain ⟨mapped, hmapped, rfl⟩ := (forall₂_images_iff hs.star).mp hblocks
    exact ⟨mapped, conditions, during, hmapped, hconditions,
      hduring, by rw [flatten_singletons]⟩
  · rintro ⟨mapped, conditions, during, hmapped, hconditions, hduring, rfl⟩
    exact ⟨_, conditions, during,
      (forall₂_images_iff hs.star).mpr ⟨mapped, hmapped, rfl⟩, hconditions,
      hduring, by rw [flatten_singletons]⟩

/-- Merging an aligned statement keeps the names that its entries are shown
under. -/
theorem labels_of_merge {today : Day} {s r : Select} (hs : s.Aligned)
    {table : Table} {view : View} (h : merge today s table view = .ok r) :
    r.items.map SelectItem.label = s.items.map SelectItem.label := by
  obtain ⟨mapped, conditions, during, hmapped, -, -, rfl⟩ :=
    (merge_eq_ok_iff_of_aligned hs).mp h
  exact labels_of_mapped hmapped

end Plan

end ReportQuery
