import Mathlib.Data.List.Infix
import ReportQuery.Command.Display
import ReportQuery.Proofs.Report.Widths
import ReportQuery.Proofs.Text.Joined

/-!
# Printed tables

The parts of a border and those of a line of values have the widths of their
columns, as the texts of a result are no longer than these. So all lines of a
table are equally long, and every text stands in full at the place where its
column begins.
-/

namespace ReportQuery

namespace ResultSet

/-- The place in a line of a table where the texts of a column begin. -/
def place (set : ResultSet) (i : Nat) : Nat :=
  2 + ((set.columns.take i).map fun column => column.width + 3).sum

/-- The lines of the table that is printed: borders around the line of names
and behind the lines of the rows are as long as these, and each name and each
cell stands in full at the place of its column. -/
def LinesUp (set : ResultSet) : Prop :=
  ∃ (border header : List Char) (lines : List (List Char))
    (summary : List Char), (ofLines set.tableLines).toList.splitOn '\n' =
      [border, header, border] ++ lines ++ [border, summary, []] ∧
    (∀ line ∈ header :: lines, line.length = border.length) ∧
    (∀ (i : Nat) column, set.columns[i]? = some column →
      column.name.toList <+: header.drop (set.place i)) ∧
    List.Forall₂ (fun row line => ∀ (i : Nat) cell, row[i]? = some cell →
      (Cell.render cell).toList <+: line.drop (set.place i)) set.rows lines

/-! ## One line -/

theorem length_padRight {width : Nat} {s : String} (h : s.length ≤ width) :
    (Text.padRight width s).length = width := by
  rw [Text.padRight, Text.replicate, String.length_append, String.length_ofList,
    List.length_replicate]
  omega

/-- A value with the blanks around it, as it stands in a column. -/
def tableCell (value : String) (column : ResultColumn) : String :=
  " " ++ Text.padRight column.width value ++ " "

theorem tableLine_eq (set : ResultSet) (values : List String) :
    set.tableLine values =
      "|" ++ Text.join "|" (List.zipWith tableCell values set.columns) ++ "|" :=
  rfl

theorem length_tableCell {value : String} {column : ResultColumn}
    (h : value.length ≤ column.width) :
    (tableCell value column).length = column.width + 2 := by
  rw [tableCell, String.length_append, String.length_append, length_padRight h]
  change 1 + column.width + 1 = _
  omega

theorem prefix_tableCell (value : String) (column : ResultColumn) :
    value.toList <+: (tableCell value column).toList.drop 1 := by
  rw [tableCell, Text.padRight, String.toList_append, String.toList_append,
    String.toList_append, List.append_assoc, List.append_assoc]
  exact List.prefix_append _ _

/-- Values that fit make parts of the widths of their columns. -/
theorem map_length_tableCell {columns : List ResultColumn}
    {values : List String}
    (h : List.Forall₂ (fun column value => String.length value ≤ column.width)
      columns values) :
    (List.zipWith tableCell values columns).map String.length =
      columns.map fun column => column.width + 2 := by
  induction h with
  | nil => rfl
  | cons hvalue _ ih =>
      rw [List.zipWith_cons_cons, List.map_cons, List.map_cons, ih,
        length_tableCell hvalue]

section Line

variable {set : ResultSet} {values : List String}
  (h : List.Forall₂ (fun column value => String.length value ≤ column.width)
    set.columns values)

include h

/-- A line of values that fit is as long as a border. -/
theorem length_tableLine :
    (set.tableLine values).length = set.border.length := by
  have hparts : (List.zipWith tableCell values set.columns).map String.length =
      (set.columns.map fun column => Text.replicate (column.width + 2) '-').map
        String.length := by
    rw [map_length_tableCell h, List.map_map]
    refine List.map_congr_left fun column _ => ?_
    simp [Text.replicate]
  have hcount := congrArg List.length hparts
  rw [List.length_map, List.length_map] at hcount
  rw [tableLine_eq, border, String.length_append, String.length_append,
    String.length_append, String.length_append, Text.length_join,
    Text.length_join, hparts, hcount]
  rfl

/-- A column begins behind the bar of the line, the parts before it with their
bars, and a blank. -/
theorem place_eq (i : Nat) :
    set.place i =
      ((((List.zipWith tableCell values set.columns).take i).map fun part =>
      part.length + "|".length).sum + 1) + 1 := by
  have hwidths : ((List.zipWith tableCell values set.columns).take i).map
        (fun part => part.length + "|".length) =
      (set.columns.take i).map fun column => column.width + 3 := by
    calc ((List.zipWith tableCell values set.columns).take i).map
          (fun part => part.length + "|".length)
        = (((List.zipWith tableCell values set.columns).map String.length).take
          i).map
            fun length => length + 1 := by
          rw [← List.map_take, List.map_map]
          rfl
      _ = _ := by
          rw [map_length_tableCell h, ← List.map_take, List.map_map]
          rfl
  rw [hwidths, place]
  omega

/-- Each value stands in full at the place of its column. -/
theorem prefix_tableLine {i : Nat} {value : String}
    (hvalue : values[i]? = some value) :
    value.toList <+: (set.tableLine values).toList.drop (set.place i) := by
  let parts := List.zipWith tableCell values set.columns
  obtain ⟨column, hcolumn⟩ : ∃ column, set.columns[i]? = some column := by
    have hi := (List.getElem?_eq_some_iff.mp hvalue).1
    exact ⟨_, List.getElem?_eq_getElem (by rwa [h.length_eq])⟩
  have hpart : parts[i]? = some (tableCell value column) := by
    simp [parts, List.getElem?_zipWith, hvalue, hcolumn]
  have hline : (set.tableLine values).toList =
      '|' :: ((Text.join "|" parts).toList ++ ['|']) := by
    simp [tableLine_eq, parts]
  have hbehind : (tableCell value column).toList <+:
      (Text.join "|" parts).toList.drop
      ((parts.take i).map fun part => part.length + "|".length).sum :=
    Text.prefix_drop_join hpart
  have hjoined : value.toList <+: (Text.join "|" parts).toList.drop
      (((parts.take i).map fun part => part.length + "|".length).sum + 1) := by
    rw [← List.drop_drop]
    exact (prefix_tableCell value column).trans (hbehind.drop 1)
  rw [hline, place_eq h i, List.drop_succ_cons]
  exact hjoined.trans ((List.prefix_append _ _).drop _)

end Line

/-! ## Line breaks -/

theorem not_mem_replicate {c d : Char} (n : Nat) (h : c ≠ d) :
    c ∉ (Text.replicate n d).toList := by
  simp [Text.replicate, h]

theorem newline_not_mem_border (set : ResultSet) :
    '\n' ∉ set.border.toList := by
  have hjoin : '\n' ∉ (Text.join "+" (set.columns.map fun column =>
      Text.replicate (column.width + 2) '-')).toList := by
    intro hmem
    obtain hbetween | ⟨part, hpart, hpartMem⟩ := Text.mem_join hmem
    · exact absurd hbetween (by decide)
    · obtain ⟨column, -, rfl⟩ := List.mem_map.mp hpart
      exact not_mem_replicate _ (by decide) hpartMem
  simp [border, hjoin]

theorem newline_not_mem_tableLine {set : ResultSet} {values : List String}
    (h : ∀ value ∈ values, '\n' ∉ value.toList) :
    '\n' ∉ (set.tableLine values).toList := by
  have hjoin :
      '\n' ∉
      (Text.join "|" (List.zipWith tableCell values set.columns)).toList := by
    intro hmem
    obtain hbetween | ⟨part, hpart, hpartMem⟩ := Text.mem_join hmem
    · exact absurd hbetween (by decide)
    · obtain ⟨i, hi, rfl⟩ := List.mem_iff_getElem.mp hpart
      rw [List.getElem_zipWith] at hpartMem
      have hvalue :=
        h _ (List.getElem_mem (by simp at hi; omega : i < values.length))
      simp [tableCell, Text.padRight, Text.replicate, hvalue] at hpartMem
  simp [tableLine_eq, hjoin]

theorem newline_not_mem_summary (set : ResultSet) :
    '\n' ∉ set.summary.toList := by
  have hdigits : '\n' ∉ (Numeral.ofNat set.rows.length).toList := by
    intro hmem
    have hchars : (Numeral.ofNat set.rows.length).toList =
        Nat.toDigits 10 set.rows.length :=
      Nat.toList_repr
    rw [hchars] at hmem
    exact absurd (Numeral.all_isDigit_toDigits _ _ hmem) (by decide)
  dsimp only [summary]
  split <;> simp [hdigits]

/-! ## The whole table -/

/-- The lines are found again in the text when neither names nor cells hold a
line break. -/
theorem splitOn_tableLines {set : ResultSet} (hrows : set.rows ≠ [])
    (hnames : ∀ name ∈ set.names, '\n' ∉ name.toList)
    (hcells : ∀ row ∈ set.rows, ∀ cell ∈ row,
      '\n' ∉ (Cell.render cell).toList) :
    (ofLines set.tableLines).toList.splitOn '\n' =
      [set.border.toList, (set.tableLine set.names).toList,
        set.border.toList] ++
        set.rows.map (fun row => (set.tableLine (rowTexts row)).toList) ++
        [set.border.toList, set.summary.toList, []] := by
  have hlines : set.tableLines =
      [set.border, set.tableLine set.names, set.border] ++
        set.rows.map (fun row => set.tableLine (rowTexts row)) ++
        [set.border, set.summary] := by
    rw [tableLines, if_neg (by simpa using hrows)]
  have hrowLines : ∀ row ∈ set.rows,
      '\n' ∉ (set.tableLine (rowTexts row)).toList := by
    intro row hrow
    refine newline_not_mem_tableLine fun value hvalue => ?_
    obtain ⟨cell, hcell, rfl⟩ := List.mem_map.mp hvalue
    exact hcells row hrow cell hcell
  have hsplit : (ofLines set.tableLines).toList.splitOn '\n' =
      set.tableLines.map String.toList ++ [[]] := by
    refine Text.splitOn_lines fun line hline => ?_
    rw [hlines] at hline
    simp only [List.mem_append, List.mem_cons, List.not_mem_nil, or_false,
      List.mem_map] at hline
    obtain ((rfl | rfl | rfl) | ⟨row, hrow, rfl⟩) | rfl | rfl := hline
    · exact newline_not_mem_border set
    · exact newline_not_mem_tableLine hnames
    · exact newline_not_mem_border set
    · exact hrowLines row hrow
    · exact newline_not_mem_border set
    · exact newline_not_mem_summary set
  rw [hsplit, hlines]
  simp

/-- The lines of a fitted result without line breaks line up. -/
theorem linesUp_of_fitted {set : ResultSet} (h : set.Fitted)
    (hrows : set.rows ≠ []) (hnames : ∀ name ∈ set.names, '\n' ∉ name.toList)
    (hcells : ∀ row ∈ set.rows, ∀ cell ∈ row,
      '\n' ∉ (Cell.render cell).toList) :
    set.LinesUp := by
  have hname :
      List.Forall₂ (fun column value => String.length value ≤ column.width)
        set.columns
      set.names := by
    rw [names, List.forall₂_map_right_iff, List.forall₂_same]
    exact h.names
  have htexts : ∀ row ∈ set.rows, List.Forall₂
      (fun column value => String.length value ≤ column.width) set.columns
        (rowTexts row) := by
    intro row hrow
    rw [rowTexts, List.forall₂_map_right_iff]
    exact h.rows row hrow
  refine ⟨set.border.toList, (set.tableLine set.names).toList,
    set.rows.map fun row => (set.tableLine (rowTexts row)).toList,
    set.summary.toList, splitOn_tableLines hrows hnames hcells, ?_, ?_, ?_⟩
  · intro line hline
    rw [List.mem_cons, List.mem_map] at hline
    obtain rfl | ⟨row, hrow, rfl⟩ := hline
    · exact length_tableLine hname
    · exact length_tableLine (htexts row hrow)
  · intro i column hcolumn
    exact prefix_tableLine hname (by simp [names, hcolumn])
  · rw [List.forall₂_map_right_iff, List.forall₂_same]
    intro row hrow i cell hcell
    exact prefix_tableLine (htexts row hrow) (by simp [rowTexts, hcell])

end ResultSet

/-! ## The results of statements -/

namespace Session

variable {κ : Type} [ReportCache κ] {session : Session κ}
  {source : ReportSource}

theorem built_of_answer {bound : BoundSelect} {records : Records}
    {set : ResultSet} (h : bound.answer records = .ok set) : set.Built := by
  obtain ⟨rows, hrows, rfl⟩ := Except.map_eq_ok_iff.mp h
  have hsorted :=
    ((ResultSet.Built.ofRecords hrows).vertical bound.vertical).sort
      bound.orderBy
  dsimp only
  split
  · exact hsorted.paginate _
  · exact hsorted

theorem built_of_describe {catalog : Catalog} {statement : Describe}
    {set : ResultSet} (h : catalog.describe statement = .ok set) :
    set.Built := by
  obtain ⟨table, -, h⟩ := Except.bind_eq_ok_iff.mp h
  obtain ⟨columns, -, h⟩ := Except.bind_eq_ok_iff.mp h
  obtain rfl := Except.ok.inj h
  refine (ResultSet.Built.ofRows fun row hrow => ?_).vertical _
  obtain ⟨column, -, rfl⟩ := List.mem_map.mp hrow
  cases hfull : statement.full <;>
    simp [TableColumn.describeRow, Catalog.describeNames]

theorem built_of_showTables {catalog : Catalog} {statement : ShowTables}
    {set : ResultSet} (h : catalog.showTables statement = .ok set) :
    set.Built := by
  obtain ⟨tables, -, h⟩ := Except.bind_eq_ok_iff.mp h
  obtain rfl := Except.ok.inj h
  refine (ResultSet.Built.ofRows fun row hrow => ?_).vertical _
  obtain ⟨table, -, rfl⟩ := List.mem_map.mp hrow
  cases hfull : statement.full <;> simp [Table.showRow, Catalog.showNames]

/-- Every result of a statement comes about as results do. -/
theorem built_of_run {statement : Statement} {set : ResultSet}
    (h : (session.run source statement).result = .ok (.rows set)) :
    set.Built := by
  cases statement with
  | select statement =>
      obtain ⟨found, hfound, houtcome⟩ := Except.map_eq_ok_iff.mp h
      obtain rfl := Outcome.rows.inj houtcome
      unfold select at hfound
      split at hfound
      · simp at hfound
      · obtain ⟨records, -, hanswer⟩ := Except.bind_eq_ok_iff.mp hfound
        exact built_of_answer hanswer
  | describe statement =>
      obtain ⟨found, hfound, houtcome⟩ :=
        Except.map_eq_ok_iff.mp (Except.mapError_eq_ok_iff.mp h)
      obtain rfl := Outcome.rows.inj houtcome
      exact built_of_describe hfound
  | showTables statement =>
      obtain ⟨found, hfound, houtcome⟩ :=
        Except.map_eq_ok_iff.mp (Except.mapError_eq_ok_iff.mp h)
      obtain rfl := Outcome.rows.inj houtcome
      exact built_of_showTables hfound
  | createView statement =>
      change (session.createView statement).result = _ at h
      unfold createView at h
      split at h <;> simp at h

end Session

/-- The widths tracked for the rows of a report are those that the whole result
needs. Every result, sorted and cut in any way, has room for its names and its
cells, so that the lines of its table are equally long and show every text in
full; and all that statements give is such a result. -/
theorem ResultSet.fitted_and_linesUp :
    (∀ (bound : BoundSelect) (records : Records) (rows : List (List Cell)),
      bound.aggregate records = .ok rows →
        (withWidths bound.labels rows
          (columnWidths bound.columns.length rows)).columns =
          (ofRows bound.labels rows).columns) ∧
    (∀ set : ResultSet, set.Built → set.Fitted ∧
      (set.rows ≠ [] → (∀ name ∈ set.names, '\n' ∉ name.toList) →
        (∀ row ∈ set.rows, ∀ cell ∈ row, '\n' ∉ (Cell.render cell).toList) →
          set.LinesUp)) ∧
    ∀ {κ : Type} [ReportCache κ] (source : ReportSource) (session : Session κ)
      (statement : Statement) (set : ResultSet),
      (session.run source statement).result = .ok (.rows set) → set.Built := by
  refine ⟨fun bound records rows hrows => ?_, fun set hset => ?_,
    fun source session statement set hset => Session.built_of_run hset⟩
  · rw [withWidths_of_aggregate hrows]
  · exact ⟨hset.fitted, linesUp_of_fitted hset.fitted⟩

/-- The cities of a report with their visits. -/
def boundCityVisits : BoundSelect where
  source := "VISITS"
  columns := [⟨"City", "City", "STRING", none, false, 0⟩,
    ⟨"Visits", "N", "LONG", none, false, 1⟩]
  reportColumns := ["City", "Visits"]
  conditions := []
  during := none
  groupBy := []
  orderBy := [⟨1, false⟩]
  limit := some ⟨0, 2⟩
  vertical := false

/-- The rows of three cities, one of them without a number. -/
def cityRows : List (List Cell) :=
  [[Cell.text "Rom", { value := .int (some 7) }],
    [Cell.text "Żagań", { value := .int (some 120) }],
    [Cell.text "Zürich", { value := .int none }]]

example : (ResultSet.ofRows boundCityVisits.labels cityRows).tableLines =
    ["+--------+-----+",
      "| City   | N   |",
      "+--------+-----+",
      "| Rom    | 7   |",
      "| Żagań  | 120 |",
      "| Zürich |  -- |",
      "+--------+-----+",
      "3 rows in set"] := by decide +kernel

/-- The first two cities in the order of their visits. -/
def cityPage : ResultSet :=
  ((ResultSet.withWidths boundCityVisits.labels cityRows
    (columnWidths 2 cityRows)).sort boundCityVisits.orderBy).paginate ⟨0, 2⟩

/-- The page has the widths that all the rows need, the row that is cut off
too, and its lines line up. -/
theorem ResultSet.fitted_and_linesUp_cities :
    boundCityVisits.aggregate [["Rom", "7"], ["Żagań", "120"],
      ["Zürich", " --"]] = .ok cityRows ∧
    (withWidths boundCityVisits.labels cityRows
      (columnWidths 2 cityRows)).columns =
      (ofRows boundCityVisits.labels cityRows).columns ∧
    cityPage.rows.length = 2 ∧ cityPage.Fitted ∧ cityPage.LinesUp := by
  have hrows : boundCityVisits.aggregate [["Rom", "7"], ["Żagań", "120"],
      ["Zürich", " --"]] = .ok cityRows := rfl
  obtain ⟨hcolumns, hset, -⟩ := ResultSet.fitted_and_linesUp
  have hbuilt : cityPage.Built := ((Built.ofRecords hrows).sort _).paginate _
  have hlength : cityPage.rows.length = 2 := by
    simp [cityPage, paginate, List.length_take, (perm_rows_sort _ _).length_eq,
      withWidths, cityRows]
  obtain ⟨hfitted, hlines⟩ := hset _ hbuilt
  refine ⟨hrows, hcolumns _ _ _ hrows, hlength, hfitted, hlines ?_ ?_ ?_⟩
  · intro hnil
    simp [hnil] at hlength
  · decide
  · intro row hrow
    have hmem : row ∈ cityRows :=
      (perm_rows_sort _ _).mem_iff.mp
        (List.mem_of_mem_drop (List.mem_of_mem_take hrow))
    have hcells : ∀ row ∈ cityRows, ∀ cell ∈ row,
        '\n' ∉ (Cell.render cell).toList := by decide
    exact hcells row hmem

end ReportQuery
