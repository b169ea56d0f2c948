import ReportQuery.Proofs.Calendar.Compact
import ReportQuery.Proofs.Results
import ReportQuery.Proofs.Statement.Gives
import ReportQuery.Proofs.Token.Identifier
import ReportQuery.Statement.Grammar

/-!
# Well-formed statements

What the grammar promises of the statements it reads. The positions of GROUP BY
and ORDER BY stand for entries of the select list and carry their columns.
Names are identifiers, save that the name of a column may be the star; values
without quotes are words or numbers, days have four-digit years, and numbers of
rows fit a signed word.
-/

namespace ReportQuery

open ReportQuery.Calendar ReportQuery.Parser

theorem itemAt?_eq_some_iff {items : List SelectItem} {position : Nat}
    {item : SelectItem} :
    itemAt? items position = some item ↔
      position ≠ 0 ∧ items[position - 1]? = some item := by
  rw [itemAt?]
  by_cases hzero : position = 0
  · simp [hzero]
  · simp [hzero]

/-- A position that stands for an entry of a select list and carries its
column. -/
def ColumnPosition.RefersTo (p : ColumnPosition) (items : List SelectItem) :
    Prop :=
  ∃ item, itemAt? items p.position = some item ∧ p.column = item.column

theorem ColumnPosition.RefersTo.bounds {p : ColumnPosition}
    {items : List SelectItem} (h : p.RefersTo items) :
    1 ≤ p.position ∧ p.position ≤ items.length := by
  obtain ⟨item, hitem, -⟩ := h
  obtain ⟨hzero, hentry⟩ := itemAt?_eq_some_iff.mp hitem
  obtain ⟨hlt, -⟩ := List.getElem?_eq_some_iff.mp hentry
  omega

/-- A name of a column: the star or an identifier. -/
def IsColumnName (name : String) : Prop :=
  name = starName ∨ IsIdentifier name

/-- The name and the alias of an entry are spelled as such, and DISTINCT has no
star. -/
structure SelectItem.WellFormed (item : SelectItem) : Prop where
  name : IsColumnName item.name
  distinct : item.name = starName → item.distinct = false
  aliasName : ∀ name ∈ item.column.aliasName, IsIdentifier name

/-- A condition has values, and those without quotes are words or numbers. -/
structure Condition.WellFormed (condition : Condition) : Prop where
  column : IsIdentifier condition.column
  values : condition.values ≠ []
  bare : condition.literal = true → ∀ value ∈ condition.values,
    IsBareValue value

/-- Days with four-digit years. -/
def During.WellFormed : During → Prop
  | .named _ => True
  | .days span => InFourDigits span.start ∧ InFourDigits span.stop

/-- Numbers of rows that fit a signed word. -/
structure Limit.WellFormed (limit : Limit) : Prop where
  offset : limit.offset < Numeral.signedBound
  count : limit.count < Numeral.signedBound

/-- The clauses of a SELECT are well formed, and its positions refer to its
entries. -/
structure Select.WellFormed (select : Select) : Prop where
  items_ne_nil : select.items ≠ []
  items : ∀ item ∈ select.items, item.WellFormed
  source : IsIdentifier select.source
  conditions : ∀ c ∈ select.conditions, c.WellFormed
  during : ∀ during ∈ select.during, during.WellFormed
  groupBy : ∀ p ∈ select.groupBy, p.RefersTo select.items
  orderBy : ∀ entry ∈ select.orderBy, entry.target.RefersTo select.items
  limit : ∀ limit ∈ select.limit, limit.WellFormed

/-- The names of a DESC statement are identifiers. -/
structure Describe.WellFormed (statement : Describe) : Prop where
  source : IsIdentifier statement.source
  column : ∀ name ∈ statement.column, IsIdentifier name

/-- The pattern of a SHOW TABLES statement is the one that its text spells. -/
def ShowTables.WellFormed (statement : ShowTables) : Prop :=
  ∀ pattern ∈ statement.like, NamePattern.ofText pattern.text = pattern

/-- The names given to the columns of a view are identifiers, none or as many
as there are entries. -/
structure CreateView.WellFormed (statement : CreateView) : Prop where
  name : IsIdentifier statement.name
  columns : ∀ name ∈ statement.columns, IsIdentifier name
  length : statement.columns = [] ∨
    statement.columns.length = statement.select.items.length
  select : statement.select.WellFormed

/-- A statement of any of the four kinds is well formed. -/
def Statement.WellFormed : Statement → Prop
  | .select statement => statement.WellFormed
  | .describe statement => statement.WellFormed
  | .showTables statement => statement.WellFormed
  | .createView statement => statement.WellFormed

/-- The select list of a statement, that of its SELECT in a CREATE VIEW. -/
def Statement.items : Statement → List SelectItem
  | .select statement => statement.items
  | .createView statement => statement.select.items
  | .describe _ | .showTables _ => []

/-! ## Tokens -/

variable {whole : List Word}

theorem gives_lexedToken (hwhole : ∀ word ∈ whole, word.token.Lexed) :
    Gives whole nextToken Token.Lexed := by
  refine gives_nextToken.mono fun token htoken => ?_
  rcases htoken with rfl | ⟨word, hword, rfl⟩
  · exact Token.Lexed.of_ne (by simp)
  · exact hwhole word hword

theorem gives_identifier (hwhole : ∀ word ∈ whole, word.token.Lexed)
    (code : SyntaxCode) : Gives whole (identifier code) IsIdentifier := by
  refine (gives_expect code (by simp)).mono ?_
  rintro literal ⟨word, hword, hkind, rfl⟩
  exact (hwhole word hword).isIdentifier hkind

theorem gives_identifier?_isIdentifier
    (hwhole : ∀ word ∈ whole, word.token.Lexed) :
    Gives whole identifier? fun found => ∀ name ∈ found, IsIdentifier name := by
  refine gives_identifier?.mono fun found hfound name hname => ?_
  obtain ⟨word, hword, hkind, rfl⟩ := hfound name hname
  exact (hwhole word hword).isIdentifier hkind

/-! ## Entries of the select list -/

theorem SelectItem.WellFormed.of_isIdentifier {name : String}
    (h : IsIdentifier name) (distinct : Bool) :
    SelectItem.WellFormed { column := { name }, distinct } :=
  ⟨Or.inr h, fun hstar => absurd hstar h.ne_starName, by simp⟩

theorem SelectItem.WellFormed.of_isColumnName {name : String}
    (h : IsColumnName name) : SelectItem.WellFormed { column := { name } } :=
  ⟨h, fun _ => rfl, by simp⟩

theorem gives_distinctItem (hwhole : ∀ word ∈ whole, word.token.Lexed) :
    Gives whole distinctItem SelectItem.WellFormed := by
  refine (gives_identifier hwhole .invalidField).bind fun name hname =>
    gives_pure ?_
  exact SelectItem.WellFormed.of_isIdentifier hname true

theorem isColumnName_of_itemAt? {items : List SelectItem} {position : Nat}
    {item : SelectItem} (hitems : ∀ item ∈ items, item.WellFormed)
    (h : itemAt? items position = some item) : IsColumnName item.name := by
  obtain ⟨-, hentry⟩ := itemAt?_eq_some_iff.mp h
  exact (hitems item (List.mem_of_getElem? hentry)).name

theorem gives_argument (hwhole : ∀ word ∈ whole, word.token.Lexed)
    (function : AggregateFunction) {before : List SelectItem}
    (hbefore : ∀ item ∈ before, item.WellFormed) :
    Gives whole (argument function before) SelectItem.WellFormed := by
  refine (gives_lexedToken hwhole).bind fun token htoken => ?_
  split
  · split
    · exact gives_pure (SelectItem.WellFormed.of_isColumnName (Or.inl rfl))
    · exact gives_failAt _ _
  · exact gives_distinctItem hwhole
  · split
    · next item hitem =>
        obtain ⟨position, -, hposition⟩ := Option.bind_eq_some_iff.mp hitem
        have hname := isColumnName_of_itemAt? hbefore hposition
        exact gives_pure (SelectItem.WellFormed.of_isColumnName hname)
    · exact gives_failAt _ _
  · next hkind =>
      have hname := htoken.isIdentifier hkind
      exact gives_pure (SelectItem.WellFormed.of_isIdentifier hname false)
  · exact gives_fail _

theorem gives_call (hwhole : ∀ word ∈ whole, word.token.Lexed) (name : String)
    {before : List SelectItem} (hbefore : ∀ item ∈ before, item.WellFormed) :
    Gives whole (call name before) SelectItem.WellFormed := by
  rw [call]
  split
  · exact gives_fail _
  · next function _ =>
      refine (gives_argument hwhole function hbefore).bind fun item hitem => ?_
      refine (gives_expect .syntaxNear (by simp)).bind fun _ _ => gives_pure ?_
      exact ⟨hitem.name, hitem.distinct, hitem.aliasName⟩

theorem gives_plainItem (hwhole : ∀ word ∈ whole, word.token.Lexed)
    {before : List SelectItem} (hbefore : ∀ item ∈ before, item.WellFormed) :
    Gives whole (plainItem before) SelectItem.WellFormed := by
  refine (gives_lexedToken hwhole).bind fun token htoken => ?_
  split
  · exact gives_pure (SelectItem.WellFormed.of_isColumnName (Or.inl rfl))
  · exact gives_distinctItem hwhole
  · next hkind =>
      refine gives_acceptCall.bind fun taken _ => ?_
      split
      · exact gives_call hwhole token.literal hbefore
      · have hname := htoken.isIdentifier hkind
        exact gives_pure (SelectItem.WellFormed.of_isIdentifier hname false)
  · exact gives_failAt _ _

theorem gives_aliasName? (hwhole : ∀ word ∈ whole, word.token.Lexed) :
    Gives whole aliasName? fun found => ∀ name ∈ found, IsIdentifier name := by
  refine (gives_accept _).bind fun taken _ => ?_
  split
  · refine (gives_identifier hwhole .invalidField).bind fun name hname =>
      gives_pure ?_
    rintro other ⟨⟩
    exact hname
  · exact gives_identifier?_isIdentifier hwhole

theorem gives_selectItem (hwhole : ∀ word ∈ whole, word.token.Lexed)
    {before : List SelectItem} (hbefore : ∀ item ∈ before, item.WellFormed) :
    Gives whole (selectItem before) SelectItem.WellFormed := by
  refine (gives_plainItem hwhole hbefore).bind fun item hitem => ?_
  refine (gives_aliasName? hwhole).bind fun aliasName haliasName =>
    gives_pure ?_
  exact ⟨hitem.name, hitem.distinct, haliasName⟩

/-- No entry is read from no words, so a select list has no more entries than
words. -/
theorem length_items_le {words rest : List Word} {items : List SelectItem}
    (h : separated .comma selectItem [] words = (.ok items, rest)) :
    items.length ≤ words.length := by
  have hentry : ∀ before item rest, selectItem before [] ≠
      (.ok item, rest) := by
    intro before item rest hrun
    simp [selectItem, plainItem, bind_apply] at hrun
  have hlength := length_separated_le hentry h
  rwa [List.length_nil, Nat.zero_add] at hlength

/-- The entries of a select list that is read from words of a list. -/
structure ItemsRead (whole : List Word) (items : List SelectItem) : Prop where
  length_le : items.length ≤ whole.length
  inTurn : ReadInTurn whole selectItem items

theorem gives_items (hwhole : ∀ word ∈ whole, word.token.Lexed) :
    Gives whole (separated .comma selectItem []) fun items =>
      (items ≠ [] ∧ ∀ item ∈ items, item.WellFormed) ∧
        ItemsRead whole items := by
  have hgives : Gives whole (separated .comma selectItem []) fun items =>
      items ≠ [] ∧ (∀ item ∈ items, item.WellFormed) ∧
        ReadInTurn whole selectItem items := by
    refine gives_separated_of_step
      (I := fun items => (∀ item ∈ items, item.WellFormed) ∧
        ReadInTurn whole selectItem items)
      ?_ ⟨by simp, readInTurn_nil whole selectItem⟩
    rintro before words item rest ⟨hbefore, hturn⟩ hwords hrun
    obtain ⟨hitem, hrest⟩ :=
      gives_selectItem hwhole hbefore words hwords item rest hrun
    refine ⟨⟨?_, hturn.concat hwords hrun⟩, hrest⟩
    exact List.forall_mem_append.mpr ⟨hbefore, by simpa using hitem⟩
  intro words hwords items rest hrun
  obtain ⟨⟨hne, hitems, hturn⟩, hrest⟩ := hgives words hwords items rest hrun
  have hlength := (length_items_le hrun).trans hwords.length_le
  exact ⟨⟨⟨hne, hitems⟩, hlength, hturn⟩, hrest⟩

/-! ## References to the select list -/

theorem refersTo_of_resolveReference {items : List SelectItem} {token : Token}
    {p : ColumnPosition} (h : resolveReference items token = some p) :
    p.RefersTo items := by
  unfold resolveReference at h
  split at h
  · obtain ⟨position, -, hposition⟩ := Option.bind_eq_some_iff.mp h
    obtain ⟨item, hitem, rfl⟩ := Option.map_eq_some_iff.mp hposition
    exact ⟨item, hitem, rfl⟩
  · obtain ⟨i, -, hi⟩ := Option.bind_eq_some_iff.mp h
    obtain ⟨item, hitem, rfl⟩ := Option.map_eq_some_iff.mp hi
    exact ⟨item, itemAt?_eq_some_iff.mpr ⟨by simp, hitem⟩, rfl⟩
  · simp at h

theorem gives_reference (items : List SelectItem) (code : SyntaxCode) :
    Gives whole (reference items code) fun p => p.RefersTo items := by
  refine gives_nextToken.bind fun token _ => ?_
  split
  · next p hp => exact gives_pure (refersTo_of_resolveReference hp)
  · exact gives_failAt _ _

theorem gives_groupByClause (items : List SelectItem) :
    Gives whole (groupByClause items) fun entries =>
      entries ≠ [] ∧ ∀ p ∈ entries, p.RefersTo items :=
  (gives_expect .invalidGroupBy (by simp)).bind fun _ _ =>
    gives_separated (fun _ _ => gives_reference items .invalidGroupBy) (by simp)

theorem gives_isDescending : Gives whole isDescending fun _ => True := by
  refine (gives_accept _).bind fun taken _ => ?_
  split
  · exact gives_pure trivial
  · exact (gives_accept _).bind fun _ _ => gives_pure trivial

theorem gives_orderByClause (items : List SelectItem) :
    Gives whole (orderByClause items) fun entries =>
      entries ≠ [] ∧ ∀ entry ∈ entries, entry.target.RefersTo items := by
  refine (gives_expect .invalidOrderBy (by simp)).bind fun _ _ =>
    gives_separated (fun _ _ => ?_) (by simp)
  refine (gives_reference items .invalidOrderBy).bind fun target htarget => ?_
  exact gives_isDescending.bind fun descending _ => gives_pure htarget

/-! ## Conditions -/

/-- A value that was written without quotes is a word or a number. -/
theorem isBareValue_of_conditionValue {token : Token} (htoken : token.Lexed)
    {value : String × Bool} (h : conditionValue token = some value) :
    value.2 = true → IsBareValue value.1 := by
  rw [conditionValue] at h
  split at h
  · next hbare =>
      obtain rfl := Option.some.inj h
      exact fun _ => htoken.isBareValue hbare
  · split at h
    · obtain rfl := Option.some.inj h
      exact fun hliteral => absurd hliteral Bool.false_ne_true
    · simp at h

theorem gives_listValue (hwhole : ∀ word ∈ whole, word.token.Lexed)
    (before : List (String × Bool)) :
    Gives whole (listValue before) fun value => value.2 = true →
      IsBareValue value.1 := by
  refine (gives_lexedToken hwhole).bind fun token htoken => ?_
  split
  · exact gives_failAt _ _
  · next value hvalue =>
      split
      · exact gives_pure (isBareValue_of_conditionValue htoken hvalue)
      · exact gives_failAt _ _

theorem gives_conditionValues (hwhole : ∀ word ∈ whole, word.token.Lexed) :
    Gives whole conditionValues fun values =>
      values ≠ [] ∧ ∀ value ∈ values, value.2 = true → IsBareValue value.1 := by
  refine (gives_lexedToken hwhole).bind fun token htoken => ?_
  split
  · next value hvalue =>
      have hbare := isBareValue_of_conditionValue htoken hvalue
      exact gives_pure ⟨by simp, by simpa using hbare⟩
  · split
    · refine (gives_separated (fun before _ => gives_listValue hwhole before)
        (by simp)).bind fun values hvalues => ?_
      exact (gives_expect .syntaxNear (by simp)).bind fun _ _ =>
        gives_pure hvalues
    · exact gives_failAt _ _

theorem gives_comparison : Gives whole comparison fun _ => True := by
  refine gives_nextToken.bind fun token _ => ?_
  split
  · exact gives_pure trivial
  · exact gives_failAt _ _

theorem gives_condition (hwhole : ∀ word ∈ whole, word.token.Lexed) :
    Gives whole condition Condition.WellFormed := by
  refine (gives_identifier hwhole .invalidField).bind fun column hcolumn => ?_
  refine gives_comparison.bind fun operator _ => ?_
  refine (gives_conditionValues hwhole).bind fun values hvalues => gives_pure ?_
  obtain ⟨hne, hbare⟩ := hvalues
  refine ⟨hcolumn, by simpa using hne, ?_⟩
  intro hliteral value hvalue
  obtain ⟨written, hwritten, rfl⟩ := List.mem_map.mp hvalue
  exact hbare written hwritten (List.all_eq_true.mp hliteral written hwritten)

/-! ## Days and numbers of rows -/

/-- A date in a DURING clause has a four-digit year. -/
def DuringEntry.WellFormed : DuringEntry → Prop
  | .date day => InFourDigits day
  | .name _ => True

theorem wellFormed_of_ofToken? {token : Token} (htoken : token.Lexed)
    {entry : DuringEntry} (h : DuringEntry.ofToken? token = some entry) :
    entry.WellFormed := by
  unfold DuringEntry.ofToken? at h
  split at h
  · next hkind =>
      obtain ⟨day, hday, rfl⟩ := Option.map_eq_some_iff.mp h
      obtain ⟨c, cs, hchars, hdigit, -, -⟩ := htoken.isNumber hkind
      exact inFourDigits_of_compactDay? hchars hdigit hday
  · obtain ⟨range, -, rfl⟩ := Option.map_eq_some_iff.mp h
    trivial
  · simp at h

theorem wellFormed_of_ofEntries {entries : List DuringEntry}
    (hentries : ∀ entry ∈ entries, entry.WellFormed) {during : During}
    (h : During.ofEntries entries = .ok during) : during.WellFormed := by
  unfold During.ofEntries at h
  split at h
  · obtain rfl := Except.ok.inj h
    trivial
  · next start stop =>
      obtain rfl := Except.ok.inj h
      have hstart : DuringEntry.WellFormed (.date start) := hentries _ (by simp)
      have hstop : DuringEntry.WellFormed (.date stop) := hentries _ (by simp)
      exact ⟨hstart, hstop⟩
  all_goals simp at h

theorem gives_duringClause (hwhole : ∀ word ∈ whole, word.token.Lexed) :
    Gives whole duringClause During.WellFormed := by
  have hentry : Gives whole duringEntry DuringEntry.WellFormed := by
    refine (gives_lexedToken hwhole).bind fun token htoken => ?_
    split
    · next entry hread => exact gives_pure (wellFormed_of_ofToken? htoken hread)
    · exact gives_fail _
  refine (gives_separated (fun _ _ => hentry) (by simp)).bind
    fun entries hentries => ?_
  split
  · next during hduring =>
      exact gives_pure (wellFormed_of_ofEntries hentries.2 hduring)
  · exact gives_fail _

theorem gives_rowNumber (hwhole : ∀ word ∈ whole, word.token.Lexed) :
    Gives whole rowNumber fun n => n < Numeral.signedBound := by
  refine (gives_lexedToken hwhole).bind fun token htoken => ?_
  split
  · next n hkind hnumber =>
      have hdigits := htoken.isNumber hkind
      obtain ⟨c, cs, hchars, hdigit, -, -⟩ := hdigits
      obtain ⟨m, hm, hlt⟩ :=
        (isNumber_digits_iff hchars hdigit).mp (htoken.isNumber hkind)
      obtain rfl := Option.some.inj (hm.symm.trans hnumber)
      exact gives_pure hlt
  · exact gives_failAt _ _

theorem gives_limitClause (hwhole : ∀ word ∈ whole, word.token.Lexed) :
    Gives whole limitClause Limit.WellFormed := by
  refine (gives_rowNumber hwhole).bind fun first hfirst => ?_
  refine (gives_accept _).bind fun taken _ => ?_
  split
  · exact (gives_rowNumber hwhole).bind fun count hcount =>
      gives_pure ⟨hfirst, hcount⟩
  · have hzero : 0 < Numeral.signedBound := by decide
    exact gives_pure ⟨hzero, hfirst⟩

theorem gives_statementEnd : Gives whole statementEnd fun _ => True := by
  refine gives_nextToken.bind fun token _ => ?_
  split
  · exact gives_pure trivial
  · exact gives_pure trivial
  · exact gives_pure trivial
  · exact gives_failAt _ _

/-! ## Statements -/

theorem gives_selectBody (hwhole : ∀ word ∈ whole, word.token.Lexed) :
    Gives whole selectBody fun s => s.WellFormed ∧ ItemsRead whole s.items := by
  refine (gives_items hwhole).bind fun items hitems => ?_
  refine (gives_expect .missingSource (by simp)).bind fun _ _ => ?_
  refine (gives_identifier hwhole .invalidSource).bind fun source hsource => ?_
  refine (gives_clause _ (gives_separated (fun _ _ => gives_condition hwhole)
    (by simp))).bind fun conditions hconditions => ?_
  refine (gives_optional _ (gives_duringClause hwhole)).bind
    fun during hduring => ?_
  refine (gives_clause _ (gives_groupByClause items)).bind
    fun groupBy hgroupBy => ?_
  refine (gives_clause _ (gives_orderByClause items)).bind
    fun orderBy horderBy => ?_
  refine (gives_optional _ (gives_limitClause hwhole)).bind
    fun limit hlimit => ?_
  obtain ⟨⟨hne, hwellFormed⟩, hread⟩ := hitems
  exact gives_statementEnd.bind fun terminator _ => gives_pure
    ⟨⟨hne, hwellFormed, hsource, hconditions, hduring, hgroupBy,
      horderBy, hlimit⟩, hread⟩

theorem gives_describeBody (hwhole : ∀ word ∈ whole, word.token.Lexed) :
    Gives whole describeBody Describe.WellFormed := by
  refine (gives_accept _).bind fun full _ => ?_
  refine (gives_identifier hwhole .invalidSource).bind fun source hsource => ?_
  refine (gives_identifier?_isIdentifier hwhole).bind fun column hcolumn => ?_
  exact gives_statementEnd.bind fun terminator _ =>
    gives_pure ⟨hsource, hcolumn⟩

theorem NamePattern.text_ofText (s : String) :
    (NamePattern.ofText s).text = s := by
  have hlast : ∀ {cs : List Char}, cs.getLast? = some '%' →
      cs.dropLast ++ ['%'] = cs := by
    intro cs h
    have hne : cs ≠ [] := by
      rintro rfl
      simp at h
    rw [List.getLast?_eq_some_getLast hne] at h
    rw [← Option.some.inj h]
    exact List.dropLast_append_getLast hne
  apply String.toList_injective
  unfold NamePattern.ofText
  split
  · next tail hchars =>
      rw [NamePattern.ofTail]
      split
      · next hpercent => simp [NamePattern.text, hchars, hlast hpercent]
      · simp [NamePattern.text, hchars]
  · split
    · next hpercent => simp [NamePattern.text, hlast hpercent]
    · rfl

theorem gives_likeClause :
    Gives whole likeClause fun pattern => NamePattern.ofText pattern.text =
      pattern := by
  refine (gives_expect .syntaxNear (by simp)).bind fun text _ => gives_pure ?_
  rw [NamePattern.text_ofText]

theorem gives_showBody : Gives whole showBody ShowTables.WellFormed := by
  have hwith : Gives whole withClause fun _ => True := by
    refine gives_nextToken.bind fun token _ => ?_
    split
    · exact gives_pure trivial
    · exact gives_failAt _ _
  refine (gives_accept _).bind fun full _ => ?_
  refine (gives_expect .invalidMethod (by simp)).bind fun _ _ => ?_
  refine (gives_optional _ gives_likeClause).bind fun like hlike => ?_
  refine (gives_optional _ hwith).bind fun column _ => ?_
  exact gives_statementEnd.bind fun terminator _ => gives_pure hlike

theorem gives_createBody (hwhole : ∀ word ∈ whole, word.token.Lexed) :
    Gives whole createBody fun s => s.WellFormed ∧
      ItemsRead whole s.select.items := by
  have horReplace : Gives whole orReplace fun _ => True := by
    refine (gives_accept _).bind fun taken _ => ?_
    split
    · exact (gives_expect .invalidMethod (by simp)).bind fun _ _ =>
        gives_pure trivial
    · exact gives_pure trivial
  have hcolumns : Gives whole viewColumns fun names =>
      names ≠ [] ∧ ∀ name ∈ names, IsIdentifier name := by
    refine (gives_separated (fun _ _ => gives_identifier hwhole .invalidField)
      (by simp)).bind fun names hnames => ?_
    exact (gives_expect .syntaxNear (by simp)).bind fun _ _ => gives_pure hnames
  refine horReplace.bind fun replace _ =>
    (gives_expect .invalidMethod (by simp)).bind fun _ _ => ?_
  refine (gives_identifier hwhole .invalidSource).bind fun name hname => ?_
  refine (gives_clause _ hcolumns).bind fun columns hnames => ?_
  refine (gives_expect .syntaxNear (by simp)).bind fun _ _ => ?_
  refine (gives_expect .invalidMethod (by simp)).bind fun _ _ => ?_
  refine (gives_selectBody hwhole).bind fun select hselect => ?_
  split
  · next hcount =>
      refine gives_pure ⟨⟨hname, hnames, ?_, hselect.1⟩, hselect.2⟩
      simpa using hcount
  · exact gives_fail _

/-- A statement read from the words of a list is well formed, and so is the
reading of its select list. -/
theorem gives_statement (hwhole : ∀ word ∈ whole, word.token.Lexed) :
    Gives whole statement fun s => s.WellFormed ∧ ItemsRead whole s.items := by
  have hnone : ItemsRead whole [] :=
    ⟨Nat.zero_le _, readInTurn_nil whole selectItem⟩
  refine gives_nextToken.bind fun token _ => ?_
  split
  · exact (gives_describeBody hwhole).bind fun s hs => gives_pure ⟨hs, hnone⟩
  · exact (gives_describeBody hwhole).bind fun s hs => gives_pure ⟨hs, hnone⟩
  · exact (gives_createBody hwhole).bind fun s hs => gives_pure hs
  · exact (gives_selectBody hwhole).bind fun s hs => gives_pure hs
  · exact gives_showBody.bind fun s hs => gives_pure ⟨hs, hnone⟩
  · exact gives_failAt _ _

/-- Every statement of a script is read from words left of the whole, and is
what a parser gives there. -/
theorem exists_read_of_mem_scriptOfWords {P : Statement → Prop}
    (hgives : Gives whole statement P) {words : List Word}
    (hwords : words <:+ whole) {statements : List Statement}
    (h : scriptOfWords words = .ok statements) {s : Statement}
    (hmem : s ∈ statements) :
    P s ∧ ∃ left rest, left <:+ whole ∧ statement left = (.ok s, rest) := by
  fun_induction scriptOfWords words generalizing statements with
  | case1 =>
      obtain rfl : [] = statements := by simpa using h
      simp at hmem
  | case2 word rest hsemicolon ih => exact ih (suffix_of_cons hwords).2 h hmem
  | case3 => simp at h
  | case4 word rest hkind read rest' hread hshorter ih =>
      obtain ⟨later, hlater, rfl⟩ := Except.map_eq_ok_iff.mp h
      obtain ⟨hholds, hleft⟩ := hgives (word :: rest) hwords read rest' hread
      rcases List.mem_cons.mp hmem with rfl | htail
      · exact ⟨hholds, word :: rest, rest', hwords, hread⟩
      · exact ih hleft hlater htail
  | case5 word rest hkind read rest' hread hlonger =>
      obtain rfl : [read] = statements := by simpa using h
      obtain rfl : s = read := by simpa using hmem
      exact ⟨(hgives (word :: rest) hwords s rest' hread).1, word :: rest,
        rest', hwords, hread⟩

/-- A statement that is read from words of a text. -/
def Statement.Parsed (s : Statement) : Prop :=
  ∃ text words rest, words ⊆ Word.ofText text ∧ statement words = (.ok s, rest)

theorem Statement.Parsed.wellFormed {s : Statement} (h : s.Parsed) :
    s.WellFormed := by
  obtain ⟨text, words, rest, hsubset, hrun⟩ := h
  have hlexed : ∀ word ∈ words, word.token.Lexed := fun word hword =>
    Word.lexed_of_mem_ofText (hsubset hword)
  exact (gives_statement hlexed words (List.suffix_refl words) s rest hrun).1.1

theorem parsed_of_parseStatement {text : String} {s : Statement}
    (h : parseStatement text = .ok s) : s.Parsed := by
  unfold parseStatement at h
  split at h
  · simp at h
  · refine ⟨text, Word.ofText text, (statement (Word.ofText text)).2,
      List.Subset.refl _, ?_⟩
    rw [← h]

/-- A statement has no more entries in its select list than its text has
characters. -/
theorem length_items_le_of_parseStatement {text : String} {s : Statement}
    (h : parseStatement text = .ok s) : s.items.length ≤ text.length := by
  have hlexed : ∀ word ∈ Word.ofText text, word.token.Lexed := fun _ =>
    Word.lexed_of_mem_ofText
  obtain ⟨rest, hrun⟩ : ∃ rest, statement (Word.ofText text) =
      (.ok s, rest) := by
    unfold parseStatement at h
    split at h
    · simp at h
    · exact ⟨(statement (Word.ofText text)).2, by rw [← h]⟩
  have hread := (gives_statement hlexed _ (List.suffix_refl _) s rest hrun).1.2
  exact hread.length_le.trans (Word.length_ofText_le text)

/-- A SELECT that is read from words of a text, as a statement or as the SELECT
of a view. -/
def Select.Parsed (s : Select) : Prop :=
  (Statement.select s).Parsed ∨
    ∃ create : CreateView, create.select = s ∧
    (Statement.createView create).Parsed

theorem Select.Parsed.wellFormed {s : Select} (h : s.Parsed) :
    s.WellFormed := by
  rcases h with hselect | ⟨create, rfl, hcreate⟩
  · exact hselect.wellFormed
  · exact CreateView.WellFormed.select hcreate.wellFormed

end ReportQuery
