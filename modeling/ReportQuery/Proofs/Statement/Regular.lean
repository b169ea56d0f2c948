import ReportQuery.Proofs.Statement.Origins
import ReportQuery.Proofs.Token.Cursor

/-!
# What the statements of a script can be relied on for

Every statement of a script is regular: its positions stand for entries of its
select list and carry their columns, its names are identifiers and no reserved
words, and its values without quotes are single tokens. It is written as a run
of tokens of the text, clause by clause.
-/

namespace ReportQuery

open ReportQuery.Parser

/-- A name: one identifier and nothing else, and in no letter case a reserved
word. -/
structure IsName (s : String) : Prop where
  token : Token.ofText s = [⟨.identifier, s⟩]
  unreserved : TokenKind.ofWord? s = none

/-- A value that is one token by itself, which can stand without quotes. -/
def IsBareToken (s : String) : Prop :=
  ∃ kind : TokenKind, kind.isBareValue = true ∧ Token.ofText s = [⟨kind, s⟩]

/-- The position is that of an entry and carries the column of the entry. -/
def ColumnPosition.StandsFor (p : ColumnPosition) (items : List SelectItem) :
    Prop :=
  1 ≤ p.position ∧ p.position ≤ items.length ∧
    ∃ item, items[p.position - 1]? = some item ∧ p.column = item.column

/-- What a SELECT can be relied on for. -/
structure Select.Regular (s : Select) : Prop where
  items : 1 ≤ s.items.length
  names : ∀ item ∈ s.items, (item.name = starName ∨ IsName item.name) ∧
    ∀ name ∈ item.column.aliasName, IsName name
  source : IsName s.source
  conditions : ∀ c ∈ s.conditions, IsName c.column ∧ c.values ≠ [] ∧
    (c.literal = true → ∀ value ∈ c.values, IsBareToken value)
  groupBy : ∀ p ∈ s.groupBy, p.StandsFor s.items
  orderBy : ∀ entry ∈ s.orderBy, entry.target.StandsFor s.items
  limit : ∀ limit ∈ s.limit, limit.offset ≤ 2 ^ 63 - 1 ∧
    limit.count ≤ 2 ^ 63 - 1

/-- What a CREATE VIEW can be relied on for. -/
structure CreateView.Regular (s : CreateView) : Prop where
  name : IsName s.name
  columns : ∀ name ∈ s.columns, IsName name
  length : s.columns ≠ [] → s.columns.length = s.select.items.length
  select : s.select.Regular

/-- What a statement can be relied on for. -/
def Statement.Regular : Statement → Prop
  | .select s => s.Regular
  | .createView s => s.Regular
  | .describe s => IsName s.source ∧ ∀ name ∈ s.column, IsName name
  | .showTables _ => True

/-! ## Names and values by themselves -/

/-- One run of characters of a class is one token. -/
theorem ofText_of_run {kindOf : List Char → TokenKind} {p : Char → Bool}
    {s : String} {c : Char} {cs : List Char} (hchars : s.toList = c :: cs)
    (hrun : Lexeme.nextFrom c cs = Lexeme.run kindOf p c cs)
    (h : ∀ d ∈ cs, p d = true) : Token.ofText s = [⟨kindOf (c :: cs), s⟩] := by
  have htake : cs.takeWhile p = cs := List.takeWhile_eq_self_iff.mpr h
  have hdrop : cs.dropWhile p = [] := List.dropWhile_eq_nil_iff.mpr h
  rw [Token.ofText, hchars, Lexeme.split_cons, hrun, Lexeme.run, htake, hdrop,
    Lexeme.split, List.map_singleton, Lexeme.plain, ← hchars,
    String.ofList_toList]

theorem IsWord.ofText_eq {kind : TokenKind} {s : String} (h : IsWord kind s) :
    Token.ofText s = [⟨kind, s⟩] := by
  obtain ⟨c, cs, hchars, hletter, hcs, rfl⟩ := h
  exact ofText_of_run hchars (Lexeme.nextFrom_of_isLetter hletter cs) hcs

theorem IsNumber.ofText_eq {kind : TokenKind} {s : String}
    (h : IsNumber kind s) : Token.ofText s = [⟨kind, s⟩] := by
  obtain ⟨c, cs, hchars, hdigit, hcs, rfl⟩ := h
  exact ofText_of_run hchars (Lexeme.nextFrom_of_isDigit hdigit cs) hcs

theorem IsBareValue.isBareToken {s : String} (h : IsBareValue s) :
    IsBareToken s := by
  obtain ⟨kind, hkind, hword | hnumber⟩ := h
  · exact ⟨kind, hkind, hword.ofText_eq⟩
  · exact ⟨kind, hkind, hnumber.ofText_eq⟩

/-- A word that is read as an identifier is not reserved. -/
theorem ofWord?_eq_none_of_wordKind {word : List Char}
    (h : Lexeme.wordKind word = .identifier) :
    TokenKind.ofWord? (String.ofList word) = none := by
  have hreserved : ∀ entry ∈ TokenKind.reserved, entry.2 ≠ .identifier := by
    decide
  rw [Lexeme.wordKind] at h
  split at h
  · simp at h
  · cases hword : TokenKind.ofWord? (String.ofList word) with
    | none => rfl
    | some kind =>
        obtain rfl : kind = .identifier := by simpa [hword] using h
        obtain ⟨entry, hentry, hkind⟩ := Option.map_eq_some_iff.mp hword
        exact absurd hkind (hreserved entry (List.mem_of_find?_eq_some hentry))

theorem IsIdentifier.isName {s : String} (h : IsIdentifier s) : IsName s := by
  refine ⟨h.isWord.ofText_eq, ?_⟩
  have hnone := ofWord?_eq_none_of_wordKind h.kind
  rwa [String.ofList_toList] at hnone

/-! ## Statements -/

theorem ColumnPosition.RefersTo.standsFor {p : ColumnPosition}
    {items : List SelectItem} (h : p.RefersTo items) : p.StandsFor items := by
  obtain ⟨hlow, hhigh⟩ := h.bounds
  obtain ⟨item, hitem, hcolumn⟩ := h
  exact ⟨hlow, hhigh, item, (itemAt?_eq_some_iff.mp hitem).2, hcolumn⟩

theorem Select.WellFormed.regular {s : Select} (h : s.WellFormed) :
    s.Regular where
  items := List.length_pos_iff.mpr h.items_ne_nil
  names := by
    intro item hitem
    have hwellFormed := h.items item hitem
    exact ⟨hwellFormed.name.imp_right IsIdentifier.isName, fun name hname =>
      (hwellFormed.aliasName name hname).isName⟩
  source := h.source.isName
  conditions := by
    intro c hc
    have hwellFormed := h.conditions c hc
    exact ⟨hwellFormed.column.isName, hwellFormed.values,
      fun hliteral value hvalue =>
        (hwellFormed.bare hliteral value hvalue).isBareToken⟩
  groupBy := fun p hp => (h.groupBy p hp).standsFor
  orderBy := fun entry hentry => (h.orderBy entry hentry).standsFor
  limit := by
    intro limit hlimit
    obtain ⟨hoffset, hcount⟩ := h.limit limit hlimit
    exact ⟨Nat.le_pred_of_lt hoffset, Nat.le_pred_of_lt hcount⟩

theorem Statement.WellFormed.regular {s : Statement} (h : s.WellFormed) :
    s.Regular := by
  cases s with
  | select s => exact Select.WellFormed.regular h
  | describe s =>
      have hnames : s.WellFormed := h
      exact ⟨hnames.source.isName,
        fun name hname => (hnames.column name hname).isName⟩
  | showTables s => trivial
  | createView s =>
      have hview : s.WellFormed := h
      exact ⟨hview.name.isName,
        fun name hname => (hview.columns name hname).isName,
        hview.length.resolve_left, hview.select.regular⟩

/-- Every statement of a script is regular, and written as the words of the
text that it is read from. -/
theorem regular_of_mem_parseScript {text : String} {statements : List Statement}
    (h : parseScript text = .ok statements) {s : Statement}
    (hmem : s ∈ statements) :
    s.Regular ∧ ∃ front taken rest,
      Word.ofText text = front ++ (taken ++ rest) ∧
      statement (taken ++ rest) = (.ok s, rest) ∧
        s.WrittenAs (taken.map (·.token)) := by
  have hlexed : ∀ word ∈ Word.ofText text, word.token.Lexed :=
    fun _ => Word.lexed_of_mem_ofText
  obtain ⟨⟨hwellFormed, -⟩, words, rest, ⟨front, hfront⟩, hrun⟩ :=
    exists_read_of_mem_scriptOfWords (gives_statement hlexed)
      (List.suffix_refl _) h hmem
  have hwords : ∀ word ∈ words, word.token.Lexed := by
    rw [← hfront] at hlexed
    exact (List.forall_mem_append.mp hlexed).2
  obtain ⟨taken, rfl, hwritten⟩ := consumes_statement words hwords s rest hrun
  exact ⟨hwellFormed.regular, front, taken, rest, hfront.symm, hrun, hwritten⟩

/-- References by alias and by position, values of all kinds, dates, two
numbers of rows, and a view over a named range. -/
def salesScript : String :=
  "SELECT city c, SUM(price) FROM sales WHERE kind IN [a, b.c, 12, 1.5] " ++
    "DURING 20240101,20240229 GROUP BY c ORDER BY 2 DESC LIMIT 5, 10; " ++
    "CREATE VIEW v (x) AS SELECT y FROM z DURING LAST_7_DAYS"

def salesStatements : List Statement :=
  [.select {
      items := [{ column := ⟨"city", some "c"⟩ },
        { column := { name := "price" }, function := some .sum }]
      source := "sales"
      conditions := [{
        column := "kind", operator := .isIn, values :=
          ["a", "b.c", "12", "1.5"], literal := true }]
      during := some (.days ⟨Day.ofCount 19723, Day.ofCount 19782⟩)
      groupBy := [⟨⟨"city", some "c"⟩, 1⟩]
      orderBy := [⟨⟨{ name := "price" }, 2⟩, true⟩]
      limit := some ⟨5, 10⟩
      terminator := .semicolon },
    .createView ⟨false, "v", ["x"], {
      items := [{ column := { name := "y" } }]
      source := "z"
      during := some (.named .last7Days) }⟩]

theorem regular_salesStatements :
    parseScript salesScript = .ok salesStatements ∧
      ∀ s ∈ salesStatements, s.Regular ∧ ∃ front taken rest,
        Word.ofText salesScript = front ++ (taken ++ rest) ∧
          statement (taken ++ rest) = (.ok s, rest) ∧
            s.WrittenAs (taken.map (·.token)) := by
  have hread : parseScript salesScript = .ok salesStatements := by
    decide +kernel
  exact ⟨hread, fun s hs => regular_of_mem_parseScript hread hs⟩

end ReportQuery
