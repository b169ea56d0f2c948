import ReportQuery.Proofs.Lists
import ReportQuery.Proofs.Plan.Merge

/-!
# Statements that unfold alike

Two statements are alike when they differ in aliases and in repeated GROUP BY
positions only. A view does not look at either, so merging it with alike
statements gives alike statements.
-/

namespace ReportQuery

/-- An entry without its alias. -/
def SelectItem.shape (item : SelectItem) : SelectItem :=
  { item with column := { name := item.name } }

/-- What an ORDER BY entry sorts by: a position and a direction. -/
def OrderEntry.place (entry : OrderEntry) : Nat × Bool :=
  (entry.target.position, entry.descending)

/-- Statements that differ in aliases and in repeated GROUP BY positions
only. -/
structure Select.Alike (s t : Select) : Prop where
  items : s.items.map SelectItem.shape = t.items.map SelectItem.shape
  source : s.source = t.source
  conditions : s.conditions = t.conditions
  during : s.during = t.during
  groupBy : (s.groupBy.map ColumnPosition.position).eraseDups =
    (t.groupBy.map ColumnPosition.position).eraseDups
  orderBy : s.orderBy.map OrderEntry.place = t.orderBy.map OrderEntry.place
  limit : s.limit = t.limit

theorem Select.Alike.symm {s t : Select} (h : s.Alike t) : t.Alike s where
  items := h.items.symm
  source := h.source.symm
  conditions := h.conditions.symm
  during := h.during.symm
  groupBy := h.groupBy.symm
  orderBy := h.orderBy.symm
  limit := h.limit.symm

theorem SelectItem.names_eq_of_shapes_eq {items others : List SelectItem}
    (h : items.map SelectItem.shape = others.map SelectItem.shape) :
    items.map SelectItem.name = others.map SelectItem.name := by
  have hnames := congrArg (List.map SelectItem.name) h
  rw [List.map_map, List.map_map] at hnames
  exact hnames

namespace Plan

/-! ## Images of entries of one shape -/

theorem map_shape_mapColumn (item : SelectItem) (column : TableColumn) :
    (mapColumn item column).map SelectItem.shape =
      (mapColumn item.shape column).map SelectItem.shape := by
  unfold mapColumn
  change ((mappedMethod item column).map _).map _ =
    ((mappedMethod item column).map _).map _
  cases mappedMethod item column <;> rfl

/-- The shape of an image depends on the shape of its entry. -/
theorem map_shape_mapItem (table : Table) (item : SelectItem) :
    (mapItem table item).map SelectItem.shape =
      (mapItem table item.shape).map SelectItem.shape := by
  have hname : item.shape.name = item.name := rfl
  unfold mapItem
  rw [hname]
  split
  · rfl
  · cases table.column? item.name with
    | none => rfl
    | some column => exact map_shape_mapColumn item column

theorem mapItem_of_shape_eq {table : Table} {item other image : SelectItem}
    (hshape : item.shape = other.shape) (h : mapItem table item = .ok image) :
    ∃ image', mapItem table other = .ok image' ∧
      image.shape = image'.shape := by
  have hmapped := map_shape_mapItem table item
  rw [hshape, ← map_shape_mapItem, h] at hmapped
  obtain ⟨image', himage, himage'⟩ := Except.map_eq_ok_iff.mp hmapped.symm
  exact ⟨image', himage, himage'.symm⟩

theorem forall₂_mapItem_of_shapes_eq {table : Table}
    {items others mapped : List SelectItem}
    (hshapes : items.map SelectItem.shape = others.map SelectItem.shape)
    (h : List.Forall₂ (fun item image => mapItem table item = .ok image)
      items mapped) :
    ∃ mapped', List.Forall₂ (fun item image => mapItem table item = .ok image)
      others mapped' ∧
      mapped.map SelectItem.shape = mapped'.map SelectItem.shape := by
  induction h generalizing others with
  | nil =>
      obtain rfl : others = [] := by simpa using hshapes
      exact ⟨[], .nil, rfl⟩
  | cons himage _ ih =>
      cases others with
      | nil => simp at hshapes
      | cons other rest =>
          obtain ⟨hshape, hrest⟩ := List.cons.inj hshapes
          obtain ⟨image', himage', hshape'⟩ := mapItem_of_shape_eq hshape himage
          obtain ⟨mapped', hmapped', hshapes'⟩ := ih hrest
          exact ⟨image' :: mapped', .cons himage' hmapped', by
            rw [List.map_cons, List.map_cons, hshape', hshapes']⟩

/-! ## Positions of alike statements -/

theorem map_position_remapPosition {items : List SelectItem}
    {p : ColumnPosition} (h : p.InRange items.length) :
    (remapPosition (items.map fun image => [image]) p).map
      ColumnPosition.position = some p.position := by
  obtain ⟨hone, hle⟩ := h
  have hlt : p.position - 1 < items.length := by omega
  rw [remapPosition_singletons ⟨hone, hle⟩,
    positionAt?_eq_some_iff.mpr ⟨hlt, rfl⟩]
  exact congrArg some (Nat.sub_add_cancel hone)

theorem map_position_adoptPosition (table : Table) (items : List SelectItem)
    (p : ColumnPosition) :
    (adoptPosition table items p).map ColumnPosition.position =
      ((items.map SelectItem.name).findIdx? (· == sourceName table p)).map
        (· + 1) := by
  rw [List.findIdx?_map]
  change ((items.findIdx? fun item => item.name == sourceName table p).bind
    _).map _ =
    (items.findIdx? fun item => item.name == sourceName table p).map _
  cases hfound : items.findIdx? fun item => item.name == sourceName table p with
  | none => rfl
  | some i =>
      obtain ⟨hlt, -⟩ := List.findIdx?_eq_some_iff_getElem.mp hfound
      rw [Option.bind_some, positionAt?_eq_some_iff.mpr ⟨hlt, rfl⟩]
      rfl

theorem distinctPositions_append_singleton (positions : List ColumnPosition)
    (p : ColumnPosition) :
    distinctPositions (positions ++ [p]) =
      if (distinctPositions positions).any fun q =>
        q.position == p.position then
        distinctPositions positions
      else distinctPositions positions ++ [p] := by
  simp [distinctPositions]

theorem positions_distinctPositions (positions : List ColumnPosition) :
    (distinctPositions positions).map ColumnPosition.position =
      (positions.map ColumnPosition.position).eraseDups := by
  induction positions using List.reverseRecOn with
  | nil => rfl
  | append_singleton positions p ih =>
      have hseen : (distinctPositions positions).any
          (fun q => q.position == p.position) = true ↔
          p.position ∈ positions.map ColumnPosition.position := by
        rw [← List.mem_eraseDups, ← ih]
        simp
      rw [distinctPositions_append_singleton, List.map_append,
        List.map_singleton]
      by_cases hmem : p.position ∈ positions.map ColumnPosition.position
      · rw [if_pos (hseen.mpr hmem), ih, List.eraseDups_append_of_mem hmem]
      · rw [if_neg (mt hseen.mp hmem), List.map_append, ih, List.map_singleton,
          List.eraseDups_append_of_not_mem hmem]

/-- The positions of a GROUP BY clause of the statement move one by one. -/
theorem positions_mergeGroupBy_of_ne_nil {own shown : List ColumnPosition}
    {table : Table} {blocks : List (List SelectItem)}
    {moved : ColumnPosition → Nat} (hown : own ≠ [])
    (h : ∀ p ∈ own, (remapPosition blocks p).map ColumnPosition.position =
      some (moved p)) :
    (mergeGroupBy own shown table blocks).map ColumnPosition.position =
      own.map moved := by
  have hkept : (own.filterMap (remapPosition blocks)).map
      ColumnPosition.position = own.map moved := List.map_filterMap_of_eq_some h
  have hne : (own.filterMap (remapPosition blocks)).isEmpty = false :=
    List.isEmpty_eq_false_iff.mpr (List.ne_nil_of_map_eq_map hkept hown)
  simp only [mergeGroupBy, hne]
  exact hkept

/-- The positions of a merged GROUP BY clause: those of the statement, or else
those of the view. -/
theorem positions_mergeGroupBy {own shown : List ColumnPosition} {table : Table}
    {items : List SelectItem} (h : ∀ p ∈ own, p.InRange items.length) :
    (mergeGroupBy own shown table (items.map fun image => [image])).map
      ColumnPosition.position = if own = [] then
        (shown.filterMap fun p => ((items.map SelectItem.name).findIdx?
          (· == sourceName table p)).map (· + 1)).eraseDups
      else own.map ColumnPosition.position := by
  by_cases hown : own = []
  · subst hown
    unfold mergeGroupBy
    change (distinctPositions (shown.filterMap (adoptPosition table _))).map
      ColumnPosition.position = _
    rw [if_pos rfl, positions_distinctPositions, List.map_filterMap,
      flatten_singletons]
    exact congrArg _ (List.filterMap_congr fun p _ =>
      map_position_adoptPosition table items p)
  · rw [if_neg hown]
    exact positions_mergeGroupBy_of_ne_nil hown fun p hp =>
      map_position_remapPosition (h p hp)

theorem map_place_retarget (move : ColumnPosition → Option ColumnPosition)
    (entry : OrderEntry) :
    (retarget move entry).map OrderEntry.place =
      ((move entry.target).map ColumnPosition.position).map fun i =>
        (i, entry.descending) := by
  unfold retarget
  cases move entry.target <;> rfl

theorem places_mergeOrderBy_of_ne_nil {own shown : List OrderEntry}
    {table : Table} {blocks : List (List SelectItem)}
    {moved : ColumnPosition → Nat} (hown : own ≠ [])
    (h : ∀ entry ∈ own, (remapPosition blocks entry.target).map
      ColumnPosition.position = some (moved entry.target)) :
    (mergeOrderBy own shown table blocks).map OrderEntry.place =
      own.map fun entry => (moved entry.target, entry.descending) := by
  have hplace : ∀ entry ∈ own,
      (retarget (remapPosition blocks) entry).map OrderEntry.place =
      some (moved entry.target, entry.descending) := by
    intro entry hentry
    rw [map_place_retarget, h entry hentry]
    rfl
  have hkept : (own.filterMap (retarget (remapPosition blocks))).map
      OrderEntry.place =
      own.map fun entry => (moved entry.target, entry.descending) :=
    List.map_filterMap_of_eq_some hplace
  have hne : (own.filterMap (retarget (remapPosition blocks))).isEmpty =
      false :=
    List.isEmpty_eq_false_iff.mpr (List.ne_nil_of_map_eq_map hkept hown)
  simp only [mergeOrderBy, hne]
  exact hkept

/-- The entries of a merged ORDER BY clause: those of the statement, or else
those of the view. -/
theorem places_mergeOrderBy {own shown : List OrderEntry} {table : Table}
    {items : List SelectItem}
    (h : ∀ entry ∈ own, entry.target.InRange items.length) :
    (mergeOrderBy own shown table (items.map fun image => [image])).map
      OrderEntry.place = if own = [] then
        shown.filterMap fun entry => ((items.map SelectItem.name).findIdx?
          (· == sourceName table entry.target)).map fun i =>
            (i + 1, entry.descending)
      else own.map OrderEntry.place := by
  by_cases hown : own = []
  · subst hown
    unfold mergeOrderBy
    change (shown.filterMap (retarget (adoptPosition table _))).map
      OrderEntry.place = _
    rw [if_pos rfl, List.map_filterMap, flatten_singletons]
    refine List.filterMap_congr fun entry _ => ?_
    rw [map_place_retarget, map_position_adoptPosition, Option.map_map]
    rfl
  · rw [if_neg hown]
    exact places_mergeOrderBy_of_ne_nil hown fun entry hentry =>
      map_position_remapPosition (h entry hentry)

theorem positions_mergeGroupBy_nil {own : List ColumnPosition} {table : Table}
    {items : List SelectItem} (h : ∀ p ∈ own, p.InRange items.length) :
    (mergeGroupBy own [] table (items.map fun image => [image])).map
      ColumnPosition.position = own.map ColumnPosition.position := by
  rw [positions_mergeGroupBy h]
  by_cases hown : own = []
  · rw [if_pos hown, hown]
    rfl
  · rw [if_neg hown]

theorem places_mergeOrderBy_nil {own : List OrderEntry} {table : Table}
    {items : List SelectItem}
    (h : ∀ entry ∈ own, entry.target.InRange items.length) :
    (mergeOrderBy own [] table (items.map fun image => [image])).map
      OrderEntry.place = own.map OrderEntry.place := by
  rw [places_mergeOrderBy h]
  by_cases hown : own = []
  · rw [if_pos hown, hown]
    rfl
  · rw [if_neg hown]

/-! ## One step -/

/-- Merging a view with alike statements gives alike statements. -/
theorem merge_alike {today : Day} {s t r : Select} {table : Table} {view : View}
    (hs : s.Aligned) (ht : t.Aligned) (h : s.Alike t)
    (hr : merge today s table view = .ok r) :
    ∃ r', merge today t table view = .ok r' ∧ r.Alike r' := by
  obtain ⟨mapped, conditions, during, hmapped, hconditions, hduring, rfl⟩ :=
    (merge_eq_ok_iff_of_aligned hs).mp hr
  obtain ⟨mapped', hmapped', hshapes⟩ :=
    forall₂_mapItem_of_shapes_eq h.items hmapped
  rw [h.conditions] at hconditions
  rw [h.during] at hduring
  refine ⟨_, (merge_eq_ok_iff_of_aligned ht).mpr
    ⟨mapped', conditions, during, hmapped', hconditions, hduring, rfl⟩, ?_⟩
  have hnames := SelectItem.names_eq_of_shapes_eq hshapes
  have hlength : s.items.length = mapped.length := hmapped.length_eq
  have hlength' : t.items.length = mapped'.length := hmapped'.length_eq
  have hgroup : s.groupBy = [] ↔ t.groupBy = [] := by
    simpa using List.eq_nil_iff_of_eraseDups_eq h.groupBy
  have horder : s.orderBy = [] ↔ t.orderBy = [] := by
    rw [← List.map_eq_nil_iff (f := OrderEntry.place), h.orderBy,
      List.map_eq_nil_iff]
  refine ⟨hshapes, rfl, rfl, rfl, ?_, ?_, by rw [h.limit]⟩
  · rw [positions_mergeGroupBy (hlength ▸ hs.groupBy),
      positions_mergeGroupBy (hlength' ▸ ht.groupBy), hnames]
    by_cases hempty : t.groupBy = []
    · rw [if_pos hempty, if_pos (hgroup.mpr hempty)]
    · rw [if_neg hempty, if_neg (mt hgroup.mp hempty), h.groupBy]
  · rw [places_mergeOrderBy (hlength ▸ hs.orderBy),
      places_mergeOrderBy (hlength' ▸ ht.orderBy), hnames]
    by_cases hempty : t.orderBy = []
    · rw [if_pos hempty, if_pos (horder.mpr hempty)]
    · rw [if_neg hempty, if_neg (mt horder.mp hempty), h.orderBy]

end Plan

end ReportQuery
