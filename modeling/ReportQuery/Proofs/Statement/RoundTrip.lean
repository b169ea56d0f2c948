import ReportQuery.Proofs.Statement.ClauseText

/-!
# The text of a statement reads back

A well-formed statement is read from its own text again, only with the end of
the text as its end, when its select list applies nothing but COUNT to the star
and has fewer entries than a signed word can count. So a statement that is read
from a text is read from its own text as well.
-/

namespace ReportQuery

open ReportQuery.Calendar ReportQuery.Parser

/-! ## SELECT statements -/

variable {s : Select}

theorem toList_clauseText (opening between : String) {entries : List String}
    (hne : entries ≠ []) : (Select.clauseText opening between entries).toList =
      opening.toList ++ (Text.join between entries).toList := by
  rw [Select.clauseText, if_neg (by simpa using hne), String.toList_append]

theorem continuesAs_where (h : ∀ c ∈ s.conditions, c.WellFormed) :
    ContinuesAs (clause (.keyword .whereWord)
      (separated (.keyword .and) (fun _ => condition) []))
      s.whereText.toList s.conditions 1 := by
  refine continuesAs_clause rfl ?_ fun hne => ?_
  · intro hnil
    simp [Select.whereText, Select.clauseText, hnil]
  · refine ⟨_, ?_, readsAs_conditions hne h⟩
    rw [Select.whereText, toList_clauseText _ _ (by simpa using hne)]
    rfl

theorem continuesAs_during (h : ∀ during ∈ s.during, during.WellFormed) :
    ContinuesAs (optional (.keyword .during) duringClause) s.duringText.toList
      s.during 2 := by
  refine continuesAs_optional rfl ?_ fun during hduring => ?_
  · intro hnone
    simp [Select.duringText, hnone]
  · refine ⟨_, ?_, readsAs_duringClause (h during hduring)⟩
    rw [Select.duringText, Option.mem_def.mp hduring, String.toList_append]
    rfl

theorem continuesAs_groupBy
    (hlength : s.groupBy ≠ [] → s.items.length < Numeral.signedBound)
    (h : ∀ p ∈ s.groupBy, p.RefersTo s.items) :
    ContinuesAs (clause (.keyword .group) (groupByClause s.items))
      s.groupByText.toList
      s.groupBy 3 := by
  refine continuesAs_clause rfl ?_ fun hne => ?_
  · intro hnil
    simp [Select.groupByText, Select.clauseText, hnil]
  · refine ⟨_, ?_, readsAs_groupByClause (hlength hne) hne h⟩
    rw [Select.groupByText, toList_clauseText _ _ (by simpa using hne)]
    rfl

theorem continuesAs_orderBy
    (hlength : s.orderBy ≠ [] → s.items.length < Numeral.signedBound)
    (h : ∀ entry ∈ s.orderBy, entry.target.RefersTo s.items) :
    ContinuesAs (clause (.keyword .order) (orderByClause s.items))
      s.orderByText.toList
      s.orderBy 4 := by
  refine continuesAs_clause rfl ?_ fun hne => ?_
  · intro hnil
    simp [Select.orderByText, Select.clauseText, hnil]
  · refine ⟨_, ?_, readsAs_orderByClause (hlength hne) hne h⟩
    rw [Select.orderByText, toList_clauseText _ _ (by simpa using hne)]
    rfl

theorem continuesAs_limit (h : ∀ limit ∈ s.limit, limit.WellFormed) :
    ContinuesAs (optional (.keyword .limit) limitClause) s.limitText.toList
      s.limit 5 := by
  refine continuesAs_optional rfl ?_ fun limit hlimit => ?_
  · intro hnone
    simp [Select.limitText, hnone]
  · refine ⟨_, ?_, readsAs_limitClause (h limit hlimit)⟩
    rw [Select.limitText, Option.mem_def.mp hlimit, String.toList_append]
    rfl

/-- The text of a SELECT after its keyword. -/
def Select.bodyText (s : Select) : List Char :=
  (Text.join ", " (s.items.map SelectItem.text)).toList ++
    (' ' :: (Keyword.fromWord.spelling.toList ++ ' ' :: s.source.toList) ++
      (s.whereText.toList ++ (s.duringText.toList ++ (s.groupByText.toList ++
        (s.orderByText.toList ++ s.limitText.toList)))))

theorem Select.toList_text (s : Select) :
    s.text.toList = Keyword.select.spelling.toList ++ ' ' :: s.bodyText := by
  simp [Select.text, Select.bodyText, Keyword.spelling]

/-- Only the positions of GROUP BY and ORDER BY need a select list that can be
counted. -/
theorem readsAs_selectBody (h : s.WellFormed)
    (hcounts : ∀ item ∈ s.items, item.CountsStar)
    (hlength : s.groupBy ≠ [] ∨ s.orderBy ≠ [] →
      s.items.length < Numeral.signedBound) :
    ReadsAs selectBody s.bodyText { s with terminator := .ending } fun rest =>
      rest = [] := by
  obtain ⟨itemWords, hitems, hreadItems⟩ :=
    readsAs_items h.items_ne_nil h.items hcounts
  obtain ⟨whereWords, hwhere, hreadWhere⟩ := continuesAs_where h.conditions
  obtain ⟨duringWords, hduring, hreadDuring⟩ := continuesAs_during h.during
  obtain ⟨groupWords, hgroup, hreadGroup⟩ :=
    continuesAs_groupBy (hlength ∘ Or.inl) h.groupBy
  obtain ⟨orderWords, horder, hreadOrder⟩ :=
    continuesAs_orderBy (hlength ∘ Or.inr) h.orderBy
  obtain ⟨limitWords, hlimit, hreadLimit⟩ := continuesAs_limit h.limit
  have hsource := (h.source.spells.after_keyword .fromWord).spaced
  have hclauses :=
    hwhere.append (hduring.append (hgroup.append (horder.append hlimit)))
  refine ⟨_, hitems.append (hsource.append hclauses), ?_⟩
  rintro rest rfl
  have hend : From 6 [] := Nat.le_refl 6
  obtain ⟨hlimitRead, hfive⟩ := hreadLimit [] hend
  obtain ⟨horderRead, hfour⟩ := hreadOrder _ hfive
  obtain ⟨hgroupRead, hthree⟩ := hreadGroup _ hfour
  obtain ⟨hduringRead, htwo⟩ := hreadDuring _ hthree
  obtain ⟨hwhereRead, -⟩ := hreadWhere _ htwo
  simp only [List.append_assoc, List.cons_append, List.nil_append]
  rw [selectBody, bind_of_ok (hreadItems _ ⟨_, rfl⟩)]
  change (clause (.keyword .whereWord)
    (separated (.keyword .and) (fun _ => condition) []) >>=
    fun conditions => _) (whereWords ++ _) = _
  rw [bind_of_ok hwhereRead, bind_of_ok hduringRead, bind_of_ok hgroupRead,
    bind_of_ok horderRead, bind_of_ok hlimitRead]
  rfl

/-! ## Statements -/

/-- A statement with the end of the text as its end. -/
def Statement.ended : Statement → Statement
  | .select s => .select { s with terminator := .ending }
  | .describe s => .describe { s with terminator := .ending }
  | .showTables s => .showTables { s with terminator := .ending }
  | .createView s =>
    .createView { s with select := { s.select with terminator := .ending } }

/-- A statement that the whole text is read as. -/
theorem parseStatement_of_readsAs {text : String} {s : Statement}
    (h : ReadsAs statement text.toList s fun rest => rest = []) :
    parseStatement text = .ok s := by
  obtain ⟨words, hspells, hread⟩ := h
  have hwords : Word.ofText text = words := by
    have hreads := hspells.reads false [] trivial
    simpa [Word.ofText, Lexeme.split, Word.ofLexemes] using hreads
  have hrun := hread [] rfl
  rw [List.append_nil] at hrun
  rw [parseStatement, hwords]
  cases words with
  | nil => cases hrun
  | cons word rest => exact congrArg Prod.fst hrun

/-- A statement is read by the parser that its first word chooses. -/
theorem readsAs_statement {α : Type} {keyword : Keyword} {body : Parser α}
    {make : α → Statement}
    (hchoice : ∀ words, statement (Word.ofKeyword keyword :: words) =
      (body >>= fun a => pure (make a)) words)
    {cs : List Char} {a : α} {next : List Word → Prop}
    (h : ReadsAs body cs a next) :
    ReadsAs statement (keyword.spelling.toList ++ ' ' :: cs) (make a) next := by
  obtain ⟨words, hspells, hread⟩ := h
  refine ⟨_, hspells.after_keyword keyword, fun rest hrest => ?_⟩
  rw [List.cons_append, hchoice, bind_of_ok (hread rest hrest)]
  rfl

theorem readsAs_select (h : s.WellFormed)
    (hcounts : ∀ item ∈ s.items, item.CountsStar)
    (hlength : s.groupBy ≠ [] ∨ s.orderBy ≠ [] →
      s.items.length < Numeral.signedBound) :
    ReadsAs statement s.text.toList (.select { s with terminator := .ending })
      fun rest => rest = [] := by
  rw [s.toList_text]
  exact readsAs_statement (fun _ => rfl) (readsAs_selectBody h hcounts hlength)

/-- A reserved word that may be left out. -/
theorem Spells.after_flag {cs : List Char} {words : List Word}
    (h : Spells cs words) (flag : Bool) {keyword : Keyword} {mark : String}
    (hmark : mark.toList = keyword.spelling.toList ++ [' ']) :
    Spells ((if flag then mark else "").toList ++ cs)
      ((if flag then [Word.ofKeyword keyword] else []) ++ words) := by
  cases flag with
  | false => exact h
  | true =>
      rw [if_pos rfl, if_pos rfl, hmark, List.append_assoc]
      exact h.after_keyword keyword

theorem readsAs_describe {s : Describe} (h : s.WellFormed) :
    ReadsAs statement s.text.toList (.describe { s with terminator := .ending })
      fun rest => rest = [] := by
  obtain ⟨full, source, column, terminator⟩ := s
  have hsource : IsIdentifier source := h.source
  have hfull : "FULL ".toList = Keyword.full.spelling.toList ++ [' '] := rfl
  have hbody : ∃ cs, (Describe.mk full source column terminator).text.toList =
      Keyword.desc.spelling.toList ++ ' ' :: cs ∧
        ReadsAs describeBody cs ⟨full, source, column, .ending⟩ fun rest =>
          rest = [] := by
    cases column with
    | none =>
        refine ⟨_, ?_, _, hsource.spells.after_flag full hfull, ?_⟩
        · simp [Describe.text, Keyword.spelling]
        · rintro rest rfl
          cases full <;> rfl
    | some name =>
        have hname : IsIdentifier name := h.column name rfl
        refine ⟨_, ?_, _, (hsource.spells.append hname.spells.spaced).after_flag
          full hfull, ?_⟩
        · simp [Describe.text, Keyword.spelling]
        · rintro rest rfl
          cases full <;> rfl
  obtain ⟨cs, htext, hread⟩ := hbody
  rw [htext]
  exact readsAs_statement (fun _ => rfl) hread

/-- The LIKE clause of a SHOW TABLES statement. -/
def ShowTables.likeText (s : ShowTables) : List Char :=
  match s.like with
  | some pattern =>
    ' ' :: (Keyword.like.spelling.toList ++
      ' ' :: (quoteText pattern.text).toList)
  | none => []

/-- The WITH clause of a SHOW TABLES statement. -/
def ShowTables.columnText (s : ShowTables) : List Char :=
  match s.column with
  | some column =>
      ' ' :: (Keyword.withWord.spelling.toList ++
        ' ' :: (quoteText column).toList)
  | none => []

theorem ShowTables.toList_text (s : ShowTables) :
    s.text.toList = Keyword.showWord.spelling.toList ++ ' ' ::
      ((if s.full then "FULL " else "").toList ++
        (Keyword.tables.spelling.toList ++ (s.likeText ++ s.columnText))) := by
  obtain ⟨full, like, column, terminator⟩ := s
  cases like <;> cases column <;>
    simp [ShowTables.text, ShowTables.likeText, ShowTables.columnText,
      NamePattern.quotedText, Keyword.spelling]

theorem continuesAs_like {s : ShowTables} (h : s.WellFormed) :
    ContinuesAs (Parser.optional (.keyword .like) likeClause) s.likeText
      s.like 4 := by
  refine continuesAs_optional rfl ?_ fun pattern hpattern => ?_
  · intro hnone
    simp [ShowTables.likeText, hnone]
  · refine ⟨(quoteText pattern.text).toList, ?_, _, spells_quoteText _,
      fun rest _ => ?_⟩
    · simp [ShowTables.likeText, Option.mem_def.mp hpattern]
    · change (Except.ok (NamePattern.ofText pattern.text), rest) = _
      rw [h pattern hpattern]

theorem continuesAs_column (s : ShowTables) :
    ContinuesAs (Parser.optional (.keyword .withWord) withClause) s.columnText
      s.column 5 := by
  refine continuesAs_optional rfl ?_ fun column hcolumn => ?_
  · intro hnone
    simp [ShowTables.columnText, hnone]
  · refine ⟨(quoteText column).toList, ?_, _, spells_quoteText _,
      fun rest _ => rfl⟩
    simp [ShowTables.columnText, Option.mem_def.mp hcolumn]

theorem readsAs_showTables {s : ShowTables} (h : s.WellFormed) :
    ReadsAs statement s.text.toList
      (.showTables { s with terminator := .ending })
      fun rest => rest = [] := by
  obtain ⟨likeWords, hlike, hreadLike⟩ := continuesAs_like h
  obtain ⟨columnWords, hcolumn, hreadColumn⟩ := continuesAs_column s
  have hfull : "FULL ".toList = Keyword.full.spelling.toList ++ [' '] := rfl
  have hclauses := (spells_keyword .tables).append (hlike.append hcolumn)
  rw [s.toList_text]
  refine readsAs_statement (fun _ => rfl)
    ⟨_, hclauses.after_flag s.full hfull, ?_⟩
  rintro rest rfl
  obtain ⟨hcolumnRead, hfive⟩ := hreadColumn [] (Nat.le_refl 6)
  obtain ⟨hlikeRead, -⟩ := hreadLike _ hfive
  have hclausesRead :
      (Parser.optional (.keyword .like) likeClause >>= fun like =>
      Parser.optional (.keyword .withWord) withClause >>= fun column =>
        statementEnd >>= fun terminator =>
          pure { s with like, column, terminator })
          (likeWords ++ (columnWords ++ [])) =
          (.ok { s with terminator := .ending }, []) := by
    rw [bind_of_ok hlikeRead, bind_of_ok hcolumnRead]
    rfl
  obtain ⟨full, like, column, terminator⟩ := s
  simp only [List.append_assoc]
  cases full <;> exact hclausesRead

/-- The names given to the columns of a view, with a space in front. -/
theorem continuesAs_columns {columns : List String}
    (h : ∀ name ∈ columns, IsIdentifier name) :
    ∃ words, Continues (if columns.isEmpty then ""
        else " (" ++ Text.join ", " columns ++ ")").toList words ∧
      ∀ rest, nextKind rest ≠ .openParen →
        clause .openParen viewColumns (words ++ rest) =
          (.ok columns, rest) := by
  by_cases hcolumns : columns = []
  · subst hcolumns
    exact ⟨[], Continues.nil, fun rest hrest => clause_of_ne hrest _⟩
  · have hnames :
        ReadsAs (separated .comma (fun _ => identifier .invalidField) [])
        (Text.join ", " (columns.map id)).toList columns
        fun rest => ∃ tail, rest = Word.ofToken .closeParen ")" :: tail := by
      refine readsAs_separated (fun _ _ => Spells.comma) ?_ hcolumns ?_
      · rintro rest ⟨tail, rfl⟩
        exact nofun
      · rintro before name after rfl
        exact ⟨_, (h name (by simp)).spells, fun rest _ => rfl⟩
    obtain ⟨words, hspells, hread⟩ := hnames
    rw [List.map_id] at hspells
    have hclosed := (hspells.append continues_closeParen).parenthesized
    refine ⟨_, by simpa [hcolumns] using hclosed, fun rest _ => ?_⟩
    change (separated .comma (fun _ => identifier .invalidField) [] >>=
      fun names => _) (words ++ [Word.ofToken .closeParen ")"] ++ rest) = _
    rw [List.append_assoc, List.singleton_append,
      bind_of_ok (hread _ ⟨rest, rfl⟩)]
    rfl

/-- What follows OR REPLACE. -/
def viewBody (replace : Bool) : Parser CreateView := do
  let _ ← expect (.keyword .view) .invalidMethod
  let name ← identifier .invalidSource
  let columns ← clause .openParen viewColumns
  let _ ← expect (.keyword .asWord) .syntaxNear
  let _ ← expect (.keyword .select) .invalidMethod
  let select ← selectBody
  if columns.isEmpty || columns.length == select.items.length then
    pure { replace, name, columns, select }
  else fail (.columnCount select.items.length columns.length)

theorem createBody_eq : createBody = (orReplace >>= viewBody) := rfl

/-- The text of a CREATE VIEW statement after OR REPLACE. -/
def CreateView.bodyText (s : CreateView) : List Char :=
  Keyword.view.spelling.toList ++ ' ' :: (s.name.toList ++
    ((if s.columns.isEmpty then "" else " (" ++ Text.join ", " s.columns ++
      ")").toList ++
      ' ' :: (Keyword.asWord.spelling.toList ++
        ' ' :: (Keyword.select.spelling.toList ++ ' ' :: s.select.bodyText))))

theorem CreateView.toList_text (s : CreateView) :
    s.text.toList = Keyword.create.spelling.toList ++ ' ' ::
      ((if s.replace then "OR REPLACE " else "").toList ++ s.bodyText) := by
  simp [CreateView.text, CreateView.bodyText, s.select.toList_text,
    Keyword.spelling]

/-- That the words begin with VIEW tells them from OR REPLACE. -/
theorem exists_words_viewBody {s : CreateView} (h : s.WellFormed)
    (hcounts : ∀ item ∈ s.select.items, item.CountsStar)
    (hlength : s.select.items.length < Numeral.signedBound) :
    ∃ words, Spells s.bodyText (Word.ofKeyword .view :: words) ∧
      viewBody s.replace (Word.ofKeyword .view :: words) =
        (.ok { s with select := { s.select with terminator := .ending } },
          []) := by
  obtain ⟨columnWords, hcolumns, hreadColumns⟩ := continuesAs_columns h.columns
  obtain ⟨selectWords, hselect, hreadSelect⟩ :=
    readsAs_selectBody h.select hcounts fun _ => hlength
  have hsource := ((hselect.after_keyword .select).after_keyword .asWord).spaced
  have hcount :
      (s.columns.isEmpty || s.columns.length == s.select.items.length) =
      true := by
    rcases h.length with hnone | hsame
    · simp [hnone]
    · simp [hsame]
  refine ⟨_,
    (h.name.spells.append (hcolumns.append hsource)).after_keyword .view, ?_⟩
  have has :
      nextKind (Word.ofKeyword .asWord :: Word.ofKeyword .select ::
        selectWords) ≠
      .openParen := by
    rintro ⟨⟩
  have hselectRead := hreadSelect [] rfl
  rw [List.append_nil] at hselectRead
  change (clause .openParen viewColumns >>= fun columns => _)
    (columnWords ++ _) = _
  rw [bind_of_ok (hreadColumns _ has)]
  change (selectBody >>= fun select => _) selectWords = _
  rw [bind_of_ok hselectRead]
  dsimp only
  rw [if_pos hcount]
  rfl

theorem readsAs_createView {s : CreateView} (h : s.WellFormed)
    (hcounts : ∀ item ∈ s.select.items, item.CountsStar)
    (hlength : s.select.items.length < Numeral.signedBound) :
    ReadsAs statement s.text.toList
      (.createView { s with select := { s.select with terminator := .ending } })
      fun rest => rest = [] := by
  obtain ⟨words, hspells, hread⟩ := exists_words_viewBody h hcounts hlength
  rw [s.toList_text]
  refine readsAs_statement (fun _ => rfl) ?_
  rw [createBody_eq]
  obtain ⟨replace, name, columns, select⟩ := s
  cases replace with
  | false =>
      refine ⟨_, hspells, ?_⟩
      rintro rest rfl
      rw [List.append_nil]
      exact hread
  | true =>
      have hmark : "OR REPLACE ".toList = Keyword.or.spelling.toList ++
          ' ' :: (Keyword.replace.spelling.toList ++ [' ']) := rfl
      rw [if_pos rfl, hmark, List.append_assoc, List.cons_append,
        List.append_assoc, List.singleton_append]
      refine ⟨_, (hspells.after_keyword .replace).after_keyword .or, ?_⟩
      rintro rest rfl
      rw [List.append_nil]
      exact hread

theorem readsAs_text {s : Statement} (h : s.WellFormed)
    (hcounts : ∀ item ∈ s.items, item.CountsStar)
    (hlength : s.items.length < Numeral.signedBound) :
    ReadsAs statement s.text.toList s.ended fun rest => rest = [] := by
  cases s with
  | select s => exact readsAs_select h hcounts fun _ => hlength
  | describe s => exact readsAs_describe h
  | showTables s => exact readsAs_showTables h
  | createView s => exact readsAs_createView h hcounts hlength

/-- A statement that a text is parsed to is parsed again from its own text,
only with the end of the text as its end, when its select list applies no
function but COUNT to the star. The bound on the length of the text is that of
every text in memory. -/
theorem parseStatement_text {text : String} {s : Statement}
    (hlength : text.length < Numeral.signedBound)
    (hparse : parseStatement text = .ok s)
    (hcounts : ∀ item ∈ s.items, item.CountsStar) :
    parseStatement s.text = .ok s.ended := by
  have hwellFormed := (parsed_of_parseStatement hparse).wellFormed
  have hitems : s.items.length < Numeral.signedBound :=
    Nat.lt_of_le_of_lt (length_items_le_of_parseStatement hparse) hlength
  exact parseStatement_of_readsAs (readsAs_text hwellFormed hcounts hitems)

/-- A text that quotes in two ways, lists one value in brackets, leaves out AS,
refers to entries by their names and starts its rows at zero. -/
def busyText : String :=
  "create or replace view busy (Place, Visits) as select City c, count(*) n " ++
    "from SHOPS where Name in ['No\\'rth', 'a\"b\\\\'] and Shop = [7] " ++
    "during 20240229 , 20240301 group by City order by n desc limit 0, 5 \\G"

/-- The statement of the text. -/
def busyView : CreateView where
  replace := true
  name := "busy"
  columns := ["Place", "Visits"]
  select := {
    items := [
      { column := { name := "City", aliasName := some "c" } },
      { column := { name := starName, aliasName := some "n" },
        function := some .count }]
    source := "SHOPS"
    conditions := [
      { column := "Name", operator := .isIn, values := ["No'rth", "a\"b\\"],
        literal := false },
      { column := "Shop", operator := .equal, values := ["7"],
        literal := true }]
    during := some (.days ⟨Day.ofCount 19782, Day.ofCount 19783⟩)
    groupBy := [⟨{ name := "City", aliasName := some "c" }, 1⟩]
    orderBy := [⟨⟨{ name := starName, aliasName := some "n" }, 2⟩, true⟩]
    limit := some ⟨0, 5⟩
    terminator := .vertical }

theorem parseStatement_text_busyView :
    parseStatement busyText = .ok (.createView busyView) ∧
      (Statement.createView busyView).text =
        "CREATE OR REPLACE VIEW busy (Place, Visits) AS SELECT City AS c, COUNT(*) AS n " ++
          "FROM SHOPS WHERE Name IN [\"No'rth\", \"a\\\"b\\\\\"] AND Shop = 7 " ++
          "DURING 20240229,20240301 GROUP BY 1 ORDER BY 2 DESC LIMIT 5" ∧
      parseStatement (Statement.createView busyView).text =
        .ok (Statement.createView busyView).ended := by
  have hparse : parseStatement busyText = .ok (.createView busyView) := by
    decide +kernel
  have hlength : busyText.length < Numeral.signedBound := by
    decide +kernel
  have hcounts : ∀ item ∈ (Statement.createView busyView).items,
      item.CountsStar := by
    intro item hitem
    simp only [Statement.items, busyView, List.mem_cons,
      List.not_mem_nil, or_false] at hitem
    rcases hitem with rfl | rfl
    · exact fun _ => Or.inl rfl
    · exact fun _ => Or.inr rfl
  refine ⟨hparse, by decide +kernel, ?_⟩
  exact parseStatement_text hlength hparse hcounts

end ReportQuery
