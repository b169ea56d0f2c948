import Mathlib.Data.List.Perm.Basic
import ReportQuery.Proofs.Catalog.Soundness
import ReportQuery.Cache.Memory
import ReportQuery.Session

/-!
# The tables that SHOW TABLES shows

A pattern for names is looked up in one of four ways: as a whole name, or as
what a name begins with, ends with or holds. In a catalog whose names are
unique each of them keeps the tables of the whole listing whose names fit the
pattern, where a percent sign at either end stands for any text and every other
character for itself. A column that is asked for is one more test on the same
listing.
-/

namespace ReportQuery

/-! ## Patterns -/

namespace NamePattern

/-- What the character at a place of a pattern stands for: any text, when it is
a percent sign at either end, and otherwise itself. -/
def place (pattern : List Char) (i : Nat) (c : Char) : Option Char :=
  if c = '%' ∧ (i = 0 ∨ i + 1 = pattern.length) then none else some c

/-- A text is put together of what the places of a pattern stand for. -/
inductive Covers : List (Option Char) → List Char → Prop
  | nil : Covers [] []
  | char {places : List (Option Char)} {cs : List Char} (c : Char) :
      Covers places cs → Covers (some c :: places) (c :: cs)
  | any {places : List (Option Char)} {cs : List Char} (text : List Char) :
      Covers places cs → Covers (none :: places) (text ++ cs)

/-- A name fits the text of a pattern. -/
def Fits (pattern name : String) : Prop :=
  Covers (pattern.toList.mapIdx (place pattern.toList)) name.toList

/-- The places of a pattern that was read. -/
def places : NamePattern → List (Option Char)
  | exactly s => s.toList.map some
  | leading s => s.toList.map some ++ [none]
  | trailing s => none :: s.toList.map some
  | within s => none :: (s.toList.map some ++ [none])

/-- Whether a name passes the test that the pattern is looked up by. -/
def accepts (pattern : NamePattern) (name : String) : Bool :=
  match pattern with
  | exactly s => name == s
  | leading s => Text.startsWith s.toList name.toList
  | trailing s => Text.endsWith s.toList name.toList
  | within s => Text.contains s.toList name.toList

theorem covers_map_some {cs name : List Char} :
    Covers (cs.map some) name ↔ name = cs := by
  induction cs generalizing name with
  | nil =>
      constructor
      · rintro ⟨⟩
        rfl
      · rintro rfl
        exact .nil
  | cons c cs ih =>
      constructor
      · rintro (_ | ⟨_, hrest⟩ | _)
        rw [ih.mp hrest]
      · rintro rfl
        exact .char c (ih.mpr rfl)

theorem covers_none_cons {rest : List (Option Char)} {name : List Char} :
    Covers (none :: rest) name ↔
      ∃ text cs, name = text ++ cs ∧ Covers rest cs := by
  constructor
  · rintro (_ | _ | ⟨text, hrest⟩)
    exact ⟨text, _, rfl, hrest⟩
  · rintro ⟨text, cs, rfl, hrest⟩
    exact .any text hrest

/-- A last place for any text takes what is left. -/
theorem covers_map_some_append_none {cs name : List Char} :
    Covers (cs.map some ++ [none]) name ↔ ∃ text, name = cs ++ text := by
  induction cs generalizing name with
  | nil =>
      rw [List.map_nil, List.nil_append, covers_none_cons]
      constructor
      · rintro ⟨taken, cs, rfl, hnil⟩
        cases hnil
        exact ⟨taken, List.append_nil taken⟩
      · intro _
        exact ⟨name, [], (List.append_nil name).symm, .nil⟩
  | cons c cs ih =>
      constructor
      · rintro (_ | ⟨_, hrest⟩ | _)
        obtain ⟨text, rfl⟩ := ih.mp hrest
        exact ⟨text, rfl⟩
      · rintro ⟨text, rfl⟩
        exact .char c (ih.mpr ⟨text, rfl⟩)

theorem accepts_iff {pattern : NamePattern} {name : String} :
    pattern.accepts name = true ↔ Covers pattern.places name.toList := by
  cases pattern with
  | exactly s =>
      rw [places, covers_map_some, accepts, beq_iff_eq, String.toList_inj]
  | leading s =>
      rw [places, covers_map_some_append_none, accepts, Text.startsWith_iff]
  | trailing s =>
      rw [places, covers_none_cons, accepts, Text.endsWith_iff]
      simp only [covers_map_some, exists_eq_right]
  | within s =>
      rw [places, covers_none_cons, accepts, Text.contains_iff]
      simp only [covers_map_some_append_none]
      constructor
      · rintro ⟨before, after, h⟩
        exact ⟨before, s.toList ++ after, by rw [h, List.append_assoc],
          after, rfl⟩
      · rintro ⟨before, _, h, after, rfl⟩
        exact ⟨before, after, by rw [h, List.append_assoc]⟩

/-- A character stands for itself unless it is a percent sign at an end. -/
theorem place_eq_some {pattern : List Char} {i : Nat} {c : Char}
    (h : c = '%' → i ≠ 0 ∧ i + 1 ≠ pattern.length) :
    place pattern i c = some c := by
  rw [place, if_neg]
  rintro ⟨hpercent, hend⟩
  exact hend.elim (h hpercent).1 (h hpercent).2

theorem mapIdx_eq_map_some {f : Nat → Char → Option Char} {cs : List Char}
    (h : ∀ i c, cs[i]? = some c → f i c = some c) :
    cs.mapIdx f = cs.map some := by
  apply List.ext_getElem?
  intro i
  rw [List.getElem?_mapIdx, List.getElem?_map]
  cases hc : cs[i]? with
  | none => rfl
  | some c => exact congrArg some (h i c hc)

theorem getLast?_of_getElem? {cs : List Char} {i : Nat} {c : Char}
    (h : cs[i]? = some c) (hlast : i + 1 = cs.length) :
    cs.getLast? = some c := by
  rw [List.getLast?_eq_getElem?, ← hlast, Nat.add_sub_cancel, h]

/-- Behind a percent sign only another one at the end is not itself. -/
theorem places_ofTail (tail : List Char) :
    (ofTail tail).places = ('%' :: tail).mapIdx (place ('%' :: tail)) := by
  have hfirst : place ('%' :: tail) 0 '%' = none := by simp [place]
  rw [ofTail, List.mapIdx_cons, hfirst]
  split
  · next hpercent =>
      obtain ⟨middle, rfl⟩ := List.getLast?_eq_some_iff.mp hpercent
      have hmiddle : ∀ i c, middle[i]? = some c →
          place ('%' :: (middle ++ ['%'])) (i + 1) c = some c := by
        intro i c hc
        have hlt := (List.getElem?_eq_some_iff.mp hc).1
        refine place_eq_some fun _ => ⟨Nat.succ_ne_zero i, ?_⟩
        simp only [List.length_cons, List.length_append]
        omega
      rw [List.mapIdx_append, mapIdx_eq_map_some hmiddle]
      simp [places, place]
  · next hpercent =>
      have htail : ∀ i c, tail[i]? = some c →
          place ('%' :: tail) (i + 1) c = some c := by
        intro i c hc
        refine place_eq_some ?_
        rintro rfl
        refine ⟨Nat.succ_ne_zero i, fun hlast => hpercent ?_⟩
        exact getLast?_of_getElem? hc (Nat.succ.inj hlast)
      rw [mapIdx_eq_map_some htail, places, String.toList_ofList]

/-- A pattern is read as what its characters stand for. -/
theorem places_ofText (s : String) :
    (ofText s).places = s.toList.mapIdx (place s.toList) := by
  unfold ofText
  split
  · next tail hchars => rw [places_ofTail, hchars]
  · next hnot =>
      have hstart : ∀ {cs more : List Char}, s.toList = cs ++ more →
          ∀ {i : Nat}, cs[i]? = some '%' → i ≠ 0 := by
        rintro cs more hchars i hc rfl
        cases cs with
        | nil => simp at hc
        | cons c rest =>
            obtain rfl : c = '%' := by simpa using hc
            exact hnot (rest ++ more) hchars
      split
      · next hpercent =>
          obtain ⟨middle, hchars⟩ := List.getLast?_eq_some_iff.mp hpercent
          have hmiddle : ∀ i c, middle[i]? = some c →
              place (middle ++ ['%']) i c = some c := by
            intro i c hc
            have hlt := (List.getElem?_eq_some_iff.mp hc).1
            refine place_eq_some ?_
            rintro rfl
            refine ⟨hstart hchars hc, ?_⟩
            simp only [List.length_append, List.length_singleton]
            omega
          rw [hchars, List.mapIdx_append, mapIdx_eq_map_some hmiddle]
          simp [places, place]
      · next hpercent =>
          have hall : ∀ i c, s.toList[i]? = some c →
              place s.toList i c = some c := by
            intro i c hc
            refine place_eq_some ?_
            rintro rfl
            exact ⟨hstart (List.append_nil _).symm hc,
              fun hlast => hpercent (getLast?_of_getElem? hc hlast)⟩
          rw [mapIdx_eq_map_some hall, places]

theorem accepts_ofText_iff {pattern name : String} :
    (ofText pattern).accepts name = true ↔ Fits pattern name := by
  rw [accepts_iff, places_ofText, Fits]

end NamePattern

/-! ## Tables -/

theorem Table.hasColumn_iff {table : Table} {label : String} :
    table.hasColumn label = true ↔
      ∃ column ∈ table.columns, column.label = label := by
  simp [hasColumn, column?]

/-- A table that a SHOW TABLES statement asks for: its name fits the pattern,
and it has the column. -/
structure Table.AskedFor (pattern column : Option String) (table : Table) :
    Prop where
  name : ∀ p ∈ pattern, NamePattern.Fits p table.name
  column : ∀ label ∈ column, ∃ found ∈ table.columns, found.label = label

/-- Whether a table passes the tests of a SHOW TABLES statement. -/
def ShowTables.accepts (statement : ShowTables) (table : Table) : Bool :=
  statement.like.all (fun pattern => pattern.accepts table.name) &&
    statement.column.all table.hasColumn

theorem ShowTables.accepts_iff {full : Bool} {pattern column : Option String}
    {terminator : Terminator} {table : Table} :
    accepts ⟨full, pattern.map NamePattern.ofText, column, terminator⟩ table =
      true ↔ table.AskedFor pattern column := by
  rw [accepts, Bool.and_eq_true]
  constructor
  · rintro ⟨hname, hcolumn⟩
    constructor
    · rintro p rfl
      exact NamePattern.accepts_ofText_iff.mp hname
    · rintro label rfl
      exact Table.hasColumn_iff.mp hcolumn
  · rintro ⟨hname, hcolumn⟩
    constructor
    · cases pattern with
      | none => rfl
      | some p => exact NamePattern.accepts_ofText_iff.mpr (hname p rfl)
    · cases column with
      | none => rfl
      | some label => exact Table.hasColumn_iff.mpr (hcolumn label rfl)

namespace Catalog

variable {catalog : Catalog}

/-- Looking a name up keeps the tables with that name, when names are unique. -/
theorem toList_find?_eq_filter {tables : List Table}
    (h : (tables.map Table.name).Nodup) (name : String) :
    (tables.find? fun table => table.name == name).toList =
      tables.filter fun table => table.name == name := by
  induction tables with
  | nil => rfl
  | cons table rest ih =>
      obtain ⟨hfresh, hrest⟩ := List.nodup_cons.mp h
      by_cases hname : table.name = name
      · have hnone : rest.filter (fun other => other.name == name) = [] := by
          rw [List.filter_eq_nil_iff]
          intro other hother hsame
          refine hfresh (List.mem_map.mpr ⟨other, hother, ?_⟩)
          rw [hname, beq_iff_eq.mp hsame]
        rw [List.find?_cons_of_pos (by simpa using hname),
          List.filter_cons_of_pos (by simpa using hname), hnone]
        rfl
      · rw [List.find?_cons_of_neg (by simpa using hname),
          List.filter_cons_of_neg (by simpa using hname), ih hrest]

theorem listing_filter (catalog : Catalog) (p : Table → Bool) :
    catalog.listing.filter p =
      (catalog.tables.filter p).filter (fun table => !table.isView) ++
        (catalog.tables.filter p).filter Table.isView := by
  rw [listing, List.filter_append]
  simp only [List.filter_filter, Bool.and_comm]

/-- Every way to look a pattern up keeps the tables of the listing whose names
pass its test. -/
theorem matching_eq_filter (h : catalog.NamesUnique) (pattern : NamePattern) :
    catalog.matching pattern =
      catalog.listing.filter fun table => pattern.accepts table.name := by
  cases pattern with
  | exactly name =>
      have hfound := toList_find?_eq_filter h name
      change (catalog.tables.find? fun table => table.name == name).toList =
        catalog.listing.filter fun table => table.name == name
      rw [listing_filter, ← hfound]
      cases catalog.tables.find? fun table => table.name == name with
      | none => rfl
      | some table => cases hview : table.isView <;> simp [hview]
  | leading | trailing | within => rfl

/-- Whatever is asked for, the listing is filtered once. -/
theorem shownTables_eq_filter (hne : catalog.tables ≠ [])
    (hnames : catalog.NamesUnique) (statement : ShowTables) :
    catalog.shownTables statement =
      .ok (catalog.listing.filter statement.accepts) := by
  obtain ⟨full, like, column, terminator⟩ := statement
  cases like with
  | none =>
      cases column with
      | none =>
          have hall : ∀ table ∈ catalog.listing,
              ShowTables.accepts ⟨full, none, none, terminator⟩ table = true :=
                fun _ _ => rfl
          rw [List.filter_eq_self.mpr hall]
          exact if_neg (by simpa using hne)
      | some label =>
          exact congrArg Except.ok (List.filter_congr fun _ _ => rfl)
  | some pattern =>
      cases column with
      | none =>
          change Except.ok (catalog.matching pattern) = _
          rw [matching_eq_filter hnames]
          exact congrArg Except.ok
            (List.filter_congr fun _ _ => (Bool.and_true _).symm)
      | some label =>
          change
            Except.ok ((catalog.matching pattern).filter fun table =>
              table.hasColumn label) = _
          rw [matching_eq_filter hnames, List.filter_filter]
          exact congrArg Except.ok
            (List.filter_congr fun _ _ => Bool.and_comm _ _)

/-- The names in a listing are those of the catalog, each of them once. -/
theorem NamesUnique.nodup_filter_listing (h : catalog.NamesUnique)
    (p : Table → Bool) : ((catalog.listing.filter p).map Table.name).Nodup := by
  have hperm : catalog.listing.Perm catalog.tables :=
    List.perm_append_comm.trans
      (List.filter_append_perm Table.isView catalog.tables)
  have hlisting : (catalog.listing.map Table.name).Nodup :=
    (hperm.map Table.name).nodup_iff.mpr h
  exact hlisting.sublist (List.filter_sublist.map Table.name)

end Catalog

namespace Session

variable {κ : Type} [ReportCache κ] {session : Session κ}

/-- SHOW TABLES shows the tables of a catalog that it asks for, each once: the
reports and behind them the views, both in the order of the catalog. With FULL
a row tells which of the two it shows. -/
theorem rows_of_showTables (hne : session.catalog.tables ≠ [])
    (hnames : session.catalog.NamesUnique) (source : ReportSource) (full : Bool)
    (pattern column : Option String) (terminator : Terminator) :
    ∃ (reports views : List Table) (set : ResultSet),
      (session.run source
          (.showTables ⟨full, pattern.map NamePattern.ofText, column,
            terminator⟩)).result =
        .ok (.rows set) ∧
      set.rows =
        reports.map (fun table =>
          Cell.text table.name ::
            if full then [Cell.text "BASE TABLE"] else []) ++
        views.map
          (fun table => Cell.text table.name ::
            if full then [Cell.text "VIEW"] else []) ∧
      ((reports ++ views).map Table.name).Nodup ∧
      reports.Sublist session.catalog.tables ∧
        views.Sublist session.catalog.tables ∧
      (∀ table, table ∈ reports ↔
        table ∈ session.catalog.tables ∧ table.isView = false ∧
        table.AskedFor pattern column) ∧
      ∀ table, table ∈ views ↔
        table ∈ session.catalog.tables ∧ table.isView = true ∧
        table.AskedFor pattern column := by
  let statement : ShowTables :=
    ⟨full, pattern.map NamePattern.ofText, column, terminator⟩
  let asked := session.catalog.tables.filter statement.accepts
  let shown := session.catalog.listing.filter statement.accepts
  have hshown : shown = asked.filter (fun table => !table.isView) ++
      asked.filter Table.isView :=
    session.catalog.listing_filter statement.accepts
  let set : ResultSet := {
    ResultSet.ofRows (session.catalog.showNames full)
      (shown.map fun table => table.showRow full)
      with vertical := terminator == .vertical }
  have hset : session.catalog.showTables statement = .ok set := by
    rw [Catalog.showTables, Catalog.shownTables_eq_filter hne hnames]
    rfl
  refine ⟨asked.filter fun table => !table.isView, asked.filter Table.isView,
    set, ?_, ?_, ?_, ?_, ?_, ?_, ?_⟩
  · simp [run, statement, hset]
  · change shown.map (fun table => table.showRow full) = _
    rw [hshown, List.map_append]
    congr 1
    · refine List.map_congr_left fun table htable => ?_
      have hview : table.isView = false := by
        simpa using (List.mem_filter.mp htable).2
      simp [Table.showRow, hview]
    · refine List.map_congr_left fun table htable => ?_
      have hview : table.isView = true := (List.mem_filter.mp htable).2
      simp [Table.showRow, hview]
  · rw [← hshown]
    exact hnames.nodup_filter_listing _
  · exact List.filter_sublist.trans List.filter_sublist
  · exact List.filter_sublist.trans List.filter_sublist
  · intro table
    rw [List.mem_filter, List.mem_filter, ShowTables.accepts_iff,
      Bool.not_eq_true', and_assoc,
      and_comm (a := table.AskedFor pattern column)]
  · intro table
    rw [List.mem_filter, List.mem_filter, ShowTables.accepts_iff, and_assoc,
      and_comm (a := table.AskedFor pattern column)]

/-- A view on a report of ports, stored before another report. -/
def portSession : Session MemoryCache where
  catalog := {
    version := "v1"
    tables := [
      { name := "HAFEN"
        aggregateColumn := "Id"
        columns := [{ name := "Id", kind := "LONG" }, { name := "City" }] },
      { name := "HÄFEN%S"
        aggregateColumn := "Id"
        columns := [{ name := "City", aliasName := some "Town" }]
        view := some { source := "HAFEN", primaryKey := "Id" } },
      { name := "FEN%S"
        aggregateColumn := "Id"
        columns := [{ name := "Town" }] }] }
  account := "1"
  today := Day.epoch
  cache := none

/-- The report comes first, although the view was there before it; the percent
sign inside the pattern stands for itself. -/
theorem rows_of_showTables_ports :
    portSession.catalog.tables ≠ [] ∧ portSession.catalog.NamesUnique ∧
      ∃ set : ResultSet,
        (portSession.run (fun _ => .ok [])
            (.showTables ⟨true, some (NamePattern.ofText "%FEN%S"),
              some "Town", .ending⟩)).result =
          .ok (.rows set) ∧
        [Cell.text "FEN%S", Cell.text "BASE TABLE"] ∈ set.rows ∧
        [Cell.text "HÄFEN%S", Cell.text "VIEW"] ∈ set.rows := by
  have hne : portSession.catalog.tables ≠ [] := by decide
  have hnames : portSession.catalog.NamesUnique := by
    unfold Catalog.NamesUnique
    decide
  have haccepts : ∀ table ∈ portSession.catalog.tables.tail, ShowTables.accepts
      ⟨true, some (NamePattern.ofText "%FEN%S"), some "Town", .ending⟩ table =
      true := by
    decide
  have hasked : ∀ table ∈ portSession.catalog.tables.tail,
      table.AskedFor (some "%FEN%S") (some "Town") :=
    fun table htable => ShowTables.accepts_iff.mp (haccepts table htable)
  obtain ⟨reports, views, set, hset, hrows, -, -, -, hreports, hviews⟩ :=
    rows_of_showTables hne hnames (fun _ => .ok []) true (some "%FEN%S")
      (some "Town") .ending
  have hreport : portSession.catalog.tables[2] ∈ reports :=
    (hreports _).mpr ⟨List.getElem_mem _, rfl, hasked _ (by decide)⟩
  have hview : portSession.catalog.tables[1] ∈ views :=
    (hviews _).mpr ⟨List.getElem_mem _, rfl, hasked _ (by decide)⟩
  refine ⟨hne, hnames, set, hset, ?_, ?_⟩
  · rw [hrows]
    exact List.mem_append_left _ (List.mem_map_of_mem hreport)
  · rw [hrows]
    exact List.mem_append_right _ (List.mem_map_of_mem hview)

end Session

end ReportQuery
