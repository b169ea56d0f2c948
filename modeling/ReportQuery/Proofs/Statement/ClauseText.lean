import ReportQuery.Proofs.Statement.ReadsAs
import ReportQuery.Proofs.Statement.WellFormed

/-!
# The text of a clause reads back

Every part of a SELECT is read from its text as the part itself, in front of
the words that can come next. Clauses stand in a fixed order, so what follows a
clause is a later clause or the end, and a clause that is left out is told from
those.
-/

namespace ReportQuery

open ReportQuery.Calendar ReportQuery.Parser

/-! ## The select list -/

/-- Only COUNT applies to the star. -/
def SelectItem.CountsStar (item : SelectItem) : Prop :=
  item.name = starName → item.function = none ∨ item.function = some .count

theorem SelectItem.WellFormed.star_or_isIdentifier {item : SelectItem}
    (h : item.WellFormed) :
    (item.name = starName ∧ item.distinct = false) ∨
      IsIdentifier item.name := by
  rcases h.name with hstar | hname
  · exact Or.inl ⟨hstar, h.distinct hstar⟩
  · exact Or.inr hname

theorem isIdentifier_functionName (function : AggregateFunction) :
    IsIdentifier function.name := by
  cases function <;>
    exact ⟨⟨_, _, rfl, by decide⟩, List.all_eq_true.mp (by decide), by decide⟩

/-- The next word does not open a call. -/
def NoCall (rest : List Word) : Prop :=
  ∀ word ∈ rest.head?, word.opensCall = false

theorem acceptCall_of_noCall {rest : List Word} (h : NoCall rest) :
    acceptCall rest = (.ok false, rest) := by
  cases rest with
  | nil => rfl
  | cons word tail =>
      have hword : word.opensCall = false := h word rfl
      simp [acceptCall, hword]

/-- The words of a name with its DISTINCT mark. -/
def markedWords (distinct : Bool) (name : String) : List Word :=
  if distinct then [Word.ofKeyword .distinct, Word.identifier name]
  else if name = starName then [Word.ofToken .asterisk "*"]
  else [Word.identifier name]

theorem spells_marked {distinct : Bool} {name : String}
    (h : (name = starName ∧ distinct = false) ∨ IsIdentifier name) :
    Spells ((if distinct then "DISTINCT " else "") ++ name).toList
      (markedWords distinct name) := by
  rw [String.toList_append]
  cases distinct with
  | false =>
      rcases h with ⟨rfl, -⟩ | hname
      · exact isMark_asterisk.spells (by decide)
      · rw [markedWords, if_neg Bool.false_ne_true, if_neg hname.ne_starName]
        exact hname.spells
  | true =>
      rcases h with ⟨-, hdistinct⟩ | hname
      · exact absurd hdistinct.symm Bool.false_ne_true
      · exact hname.spells.after_keyword .distinct

theorem argument_marked {distinct : Bool} {name : String}
    {function : AggregateFunction}
    (h : (name = starName ∧ distinct = false ∧ function = .count) ∨
      IsIdentifier name) (before : List SelectItem) (rest : List Word) :
    argument function before (markedWords distinct name ++ rest) =
      (.ok { column := { name }, distinct }, rest) := by
  rcases h with ⟨rfl, rfl, rfl⟩ | hname
  · rfl
  · cases distinct with
    | true => rfl
    | false =>
        rw [markedWords, if_neg Bool.false_ne_true, if_neg hname.ne_starName]
        rfl

theorem plainItem_marked {distinct : Bool} {name : String}
    (h : (name = starName ∧ distinct = false) ∨ IsIdentifier name)
    (before : List SelectItem) {rest : List Word} (hrest : NoCall rest) :
    plainItem before (markedWords distinct name ++ rest) =
      (.ok { column := { name }, distinct }, rest) := by
  rcases h with ⟨rfl, rfl⟩ | hname
  · rfl
  · cases distinct with
    | true => rfl
    | false =>
        rw [markedWords, if_neg Bool.false_ne_true, if_neg hname.ne_starName,
          plainItem, List.singleton_append, bind_of_ok (nextToken_cons _ _)]
        change (acceptCall >>= fun taken => _) rest = _
        rw [bind_of_ok (acceptCall_of_noCall hrest)]
        rfl

/-- An entry without its alias. -/
theorem readsAs_plainItem {item : SelectItem} (h : item.WellFormed)
    (hcounts : item.CountsStar) (haliasName : item.column.aliasName = none)
    (before : List SelectItem) :
    ReadsAs (plainItem before) item.text.toList item NoCall := by
  have hmarked := h.star_or_isIdentifier
  obtain ⟨⟨name, aliasName⟩, function, distinct⟩ := item
  obtain rfl : aliasName = none := haliasName
  cases function with
  | none =>
      exact ⟨_, spells_marked hmarked,
        fun rest hrest => plainItem_marked hmarked before hrest⟩
  | some function =>
      have hargument : (name = starName ∧ distinct = false ∧
          function = .count) ∨ IsIdentifier name := by
        refine hmarked.imp_left fun hstar => ⟨hstar.1, hstar.2, ?_⟩
        simpa using hcounts hstar.1
      have hspells := (isIdentifier_functionName function).spells_call
        ((spells_marked hmarked).append continues_closeParen).reads
      refine ⟨_, by simpa [SelectItem.text, SelectItem.name] using hspells,
        fun rest _ => ?_⟩
      change call function.name before
        (markedWords distinct name ++ [Word.ofToken .closeParen ")"] ++ rest) =
        _
      rw [call, AggregateFunction.ofName?_name, List.append_assoc]
      change (argument function before >>= fun item => _) _ = _
      rw [bind_of_ok (argument_marked hargument before _)]
      rfl

theorem aliasName?_of_ne {rest : List Word}
    (has : nextKind rest ≠ .keyword .asWord)
    (hidentifier : nextKind rest ≠ .identifier) :
    aliasName? rest = (.ok none, rest) := by
  rw [aliasName?, bind_of_ok (accept_of_ne has)]
  exact identifier?_of_ne hidentifier

/-- The next word is FROM or a comma. -/
def AfterItem (rest : List Word) : Prop :=
  (∃ tail, rest = Word.ofKeyword .fromWord :: tail) ∨
    ∃ tail, rest = Word.ofToken .comma "," :: tail

theorem readsAs_selectItem {item : SelectItem} (h : item.WellFormed)
    (hcounts : item.CountsStar) (before : List SelectItem) :
    ReadsAs (selectItem before) item.text.toList item AfterItem := by
  obtain ⟨⟨name, aliasName⟩, function, distinct⟩ := item
  have hwellFormed : SelectItem.WellFormed ⟨⟨name, none⟩, function, distinct⟩ :=
    ⟨h.name, h.distinct, by simp⟩
  obtain ⟨words, hspells, hplain⟩ :=
    readsAs_plainItem hwellFormed hcounts rfl before
  cases aliasName with
  | none =>
      refine ⟨words, hspells, fun rest hrest => ?_⟩
      have hnoCall : NoCall rest := by
        rcases hrest with ⟨tail, rfl⟩ | ⟨tail, rfl⟩ <;>
          simp [NoCall, Word.ofKeyword, Word.ofToken]
      have hnone : aliasName? rest = (.ok none, rest) := by
        rcases hrest with ⟨tail, rfl⟩ | ⟨tail, rfl⟩ <;>
          exact aliasName?_of_ne nofun nofun
      rw [selectItem, bind_of_ok (hplain rest hnoCall), bind_of_ok hnone]
      rfl
  | some shown =>
      have hshown : IsIdentifier shown := h.aliasName shown rfl
      have hwords := hspells.append (hshown.spells.after_keyword .asWord).spaced
      refine ⟨_, by simpa [SelectItem.text, SelectItem.name,
        Keyword.spelling] using hwords, fun rest _ => ?_⟩
      have hnoCall :
          NoCall ([Word.ofKeyword .asWord, Word.identifier shown] ++ rest) := by
        simp [NoCall, Word.ofKeyword, Word.ofToken]
      rw [List.append_assoc, selectItem, bind_of_ok (hplain _ hnoCall)]
      rfl

theorem readsAs_items {items : List SelectItem} (hne : items ≠ [])
    (h : ∀ item ∈ items, item.WellFormed)
    (hcounts : ∀ item ∈ items, item.CountsStar) :
    ReadsAs (separated .comma selectItem [])
      (Text.join ", " (items.map SelectItem.text)).toList
      items fun rest => ∃ tail, rest = Word.ofKeyword .fromWord :: tail := by
  refine readsAs_separated (fun _ _ => Spells.comma) ?_ hne ?_
  · rintro rest ⟨tail, rfl⟩
    exact nofun
  · rintro before item after rfl
    exact readsAs_selectItem (h item (by simp)) (hcounts item (by simp)) before

/-! ## Conditions -/

/-- A value as it is written in a condition. -/
def valueText (value : String × Bool) : String :=
  if value.2 then value.1 else quoteText value.1

theorem spells_value {value : String × Bool}
    (h : value.2 = true → IsBareValue value.1) :
    ∃ word, Spells (valueText value).toList [word] ∧
      conditionValue word.token = some value := by
  obtain ⟨text, literal⟩ := value
  cases literal with
  | false => exact ⟨Word.ofToken .quoted text, spells_quoteText text, rfl⟩
  | true =>
      obtain ⟨kind, hkind, hspelled⟩ := h rfl
      have hblank : kind ≠ .blank := fun heq => by
        simp [heq, TokenKind.isBareValue] at hkind
      have hparen : kind ≠ .openParen := fun heq => by
        simp [heq, TokenKind.isBareValue] at hkind
      refine ⟨Word.ofToken kind text, ?_, if_pos hkind⟩
      rcases hspelled with hword | hnumber
      · exact hword.spells hblank hparen
      · exact hnumber.spells hblank hparen

theorem readsAs_listValue {value : String × Bool}
    (h : value.2 = true → IsBareValue value.1) {before : List (String × Bool)}
    (hbefore : ∀ other ∈ before, other.2 = value.2) (next : List Word → Prop) :
    ReadsAs (listValue before) (valueText value).toList value next := by
  obtain ⟨word, hspells, hvalue⟩ := spells_value h
  refine ⟨[word], hspells, fun rest _ => ?_⟩
  have hall : (before.all fun other => other.2 == value.2) = true := by
    simpa using hbefore
  rw [List.singleton_append, listValue,
    bind_of_ok (nextToken_cons word rest), hvalue]
  dsimp only
  rw [if_pos hall]
  rfl

/-- The values of a list in brackets, after its opening bracket. -/
theorem readsAs_valueList {values : List (String × Bool)} (hne : values ≠ [])
    {literal : Bool} (hliteral : ∀ value ∈ values, value.2 = literal)
    (h : ∀ value ∈ values, value.2 = true → IsBareValue value.1)
    (next : List Word → Prop) :
    ReadsAs valueList ((Text.join ", " (values.map valueText)).toList ++ [']'])
      values next := by
  have hlist : ReadsAs (separated .comma listValue [])
      (Text.join ", " (values.map valueText)).toList values
      fun rest => ∃ tail, rest = Word.ofToken .closeBracket "]" :: tail := by
    refine readsAs_separated (fun _ _ => Spells.comma) ?_ hne ?_
    · rintro rest ⟨tail, rfl⟩
      exact nofun
    · rintro before value after rfl
      refine readsAs_listValue (h value (by simp)) ?_ _
      intro other hother
      rw [hliteral value (by simp),
        hliteral other (List.mem_append_left _ hother)]
  obtain ⟨words, hspells, hread⟩ := hlist
  refine ⟨_, hspells.append continues_closeBracket, fun rest _ => ?_⟩
  rw [List.append_assoc, List.singleton_append, valueList,
    bind_of_ok (hread _ ⟨rest, rfl⟩)]
  rfl

theorem readsAs_conditionValues {values : List (String × Bool)}
    (hne : values ≠ []) {literal : Bool}
    (hliteral : ∀ value ∈ values, value.2 = literal)
    (h : ∀ value ∈ values, value.2 = true → IsBareValue value.1)
    (next : List Word → Prop) :
    ReadsAs conditionValues
      (if values.length > 1 then "[" ++
        Text.join ", " (values.map valueText) ++ "]"
        else Text.join "" (values.map valueText)).toList values next := by
  match values with
  | [] => exact absurd rfl hne
  | [value] =>
      obtain ⟨word, hspells, hvalue⟩ :=
        spells_value (h value List.mem_cons_self)
      refine ⟨[word], hspells, fun rest _ => ?_⟩
      rw [List.singleton_append, conditionValues,
        bind_of_ok (nextToken_cons word rest), hvalue]
      rfl
  | first :: second :: others =>
      obtain ⟨words, hspells, hread⟩ := readsAs_valueList hne hliteral h next
      refine ⟨Word.ofToken .openBracket "[" :: words, ?_, hread⟩
      rw [if_pos (by simp), String.toList_append, String.toList_append]
      exact ⟨⟨'[', _, rfl, by decide⟩, isMark_openBracket.reads hspells.reads⟩

theorem readsAs_condition {c : Condition} (h : c.WellFormed)
    (next : List Word → Prop) :
    ReadsAs condition c.text.toList c next := by
  obtain ⟨column, operator, texts, literal⟩ := c
  have hne : texts ≠ [] := h.values
  have hvalues := readsAs_conditionValues
    (by simpa using hne : texts.map (fun text => (text, literal)) ≠ [])
    (by simp : ∀ value ∈ texts.map fun text => (text, literal),
      value.2 = literal)
    (by simpa using fun text htext hliteral => h.bare hliteral text htext) next
  obtain ⟨words, hspells, hread⟩ := hvalues
  have htexts : (texts.map fun text => (text, literal)).map valueText =
      texts.map fun text => if literal then text else quoteText text := by
    rw [List.map_map]
    rfl
  have hwords := h.column.spells.append
    ((spells_operator operator).append hspells.spaced).spaced
  refine ⟨_, by simpa [Condition.text,
    Condition.valueText, htexts] using hwords, fun rest hrest => ?_⟩
  have hfirst : (texts.map fun text => (text, literal)).map (·.1) = texts := by
    rw [List.map_map]
    exact List.map_id texts
  have hall : (texts.map fun text => (text, literal)).all (·.2) = literal := by
    cases texts with
    | nil => exact absurd rfl hne
    | cons first rest => cases literal <;> simp
  change (conditionValues >>= fun values => _) (words ++ rest) = _
  rw [bind_of_ok (hread rest hrest), pure_apply, hfirst, hall]
  rfl

/-! ## The order of clauses -/

/-- The place of the clause that a word opens, among the clauses of its
statement; the end comes after all of them. -/
def clausePlace : TokenKind → Nat
  | .keyword .whereWord => 1
  | .keyword .during => 2
  | .keyword .group => 3
  | .keyword .order | .keyword .like => 4
  | .keyword .limit | .keyword .withWord => 5
  | .ending => 6
  | _ => 0

/-- The next word opens a clause from some place on, or is the end. -/
def From (place : Nat) (rest : List Word) : Prop :=
  place ≤ clausePlace (nextKind rest)

theorem From.ne {place : Nat} {rest : List Word} (h : From place rest)
    {kind : TokenKind} (hkind : clausePlace kind < place) :
    nextKind rest ≠ kind := by
  rintro rfl
  exact absurd h (Nat.not_le.mpr hkind)

/-- A clause that may be left out is read from its text in front of the later
clauses. -/
def ContinuesAs {α : Type} (parser : Parser α) (cs : List Char) (a : α)
    (place : Nat) : Prop :=
  ∃ words, Continues cs words ∧
    ∀ rest, From (place + 1) rest →
      parser (words ++ rest) = (.ok a, rest) ∧ From place (words ++ rest)

/-- The text of a clause: its keyword and what a parser reads. -/
def ClauseText {α : Type} (keyword : Keyword) (parser : Parser α) (a : α)
    (place : Nat) (cs : List Char) : Prop :=
  ∃ body, cs = ' ' :: (keyword.spelling.toList ++ ' ' :: body) ∧
    ReadsAs parser body a (From (place + 1))

theorem continuesAs_clause {α : Type} {keyword : Keyword} {place : Nat}
    (hplace : clausePlace (.keyword keyword) = place) {parser : Parser (List α)}
    {cs : List Char} {xs : List α} (hnil : xs = [] → cs = [])
    (hcons : xs ≠ [] → ClauseText keyword parser xs place cs) :
    ContinuesAs (clause (.keyword keyword) parser) cs xs place := by
  by_cases hxs : xs = []
  · obtain rfl := hnil hxs
    refine ⟨[], Continues.nil, fun rest hrest => ⟨?_, Nat.le_of_succ_le hrest⟩⟩
    rw [hxs]
    exact clause_of_ne (hrest.ne (by omega)) parser
  · obtain ⟨body, rfl, words, hspells, hread⟩ := hcons hxs
    refine ⟨_, (hspells.after_keyword keyword).spaced,
      fun rest hrest => ⟨?_, hplace.ge⟩⟩
    rw [List.cons_append]
    exact (clause_cons rfl parser _).trans (hread rest hrest)

theorem continuesAs_optional {α : Type} {keyword : Keyword} {place : Nat}
    (hplace : clausePlace (.keyword keyword) = place) {parser : Parser α}
    {cs : List Char} {found : Option α} (hnone : found = none → cs = [])
    (hsome : ∀ a ∈ found, ClauseText keyword parser a place cs) :
    ContinuesAs (optional (.keyword keyword) parser) cs found place := by
  cases found with
  | none =>
      obtain rfl := hnone rfl
      refine ⟨[], Continues.nil,
        fun rest hrest => ⟨?_, Nat.le_of_succ_le hrest⟩⟩
      exact optional_of_ne (hrest.ne (by omega)) parser
  | some a =>
      obtain ⟨body, rfl, words, hspells, hread⟩ := hsome a rfl
      refine ⟨_, (hspells.after_keyword keyword).spaced,
        fun rest hrest => ⟨?_, hplace.ge⟩⟩
      rw [List.cons_append]
      exact optional_cons rfl (hread rest hrest)

theorem Spells.between_and {cs : List Char} {words : List Word}
    (h : Spells cs words) :
    Continues (" AND ".toList ++ cs) (Word.ofKeyword .and :: words) :=
  (h.after_keyword .and).spaced

theorem readsAs_conditions {conditions : List Condition} (hne : conditions ≠ [])
    (h : ∀ c ∈ conditions, c.WellFormed) :
    ReadsAs (separated (.keyword .and) (fun _ => condition) [])
      (Text.join " AND " (conditions.map Condition.text)).toList conditions
        (From 2) := by
  refine readsAs_separated (fun _ _ => Spells.between_and) ?_ hne ?_
  · intro rest hrest
    exact hrest.ne (by decide)
  · rintro before c after rfl
    exact readsAs_condition (h c (by simp)) _

/-! ## DURING -/

/-- An entry of a DURING clause as it is written. -/
def DuringEntry.text : DuringEntry → String
  | .date day => Layout.compact.writeDay day
  | .name range => range.word

theorem isIdentifier_rangeWord (range : NamedRange) :
    IsIdentifier range.word := by
  cases range <;>
    exact ⟨⟨_, _, rfl, by decide⟩, List.all_eq_true.mp (by decide), by decide⟩

theorem ofWord?_word (range : NamedRange) :
    NamedRange.ofWord? range.word = some range := by
  cases range <;> decide

theorem isNumber_writeDay {day : Day} (h : InFourDigits day) :
    IsNumber .digits (Layout.compact.writeDay day) := by
  have hdigits := h.all_isDigit_writeDay
  have hlength := h.length_writeDay
  cases hchars : (Layout.compact.writeDay day).toList with
  | nil => simp [hchars] at hlength
  | cons c cs =>
      rw [isNumber_digits_iff hchars (hdigits c (by simp [hchars]))]
      obtain ⟨n, hn⟩ := Numeral.exists_natural? (by simp [hchars]) hdigits
      have hlt := Numeral.natural?_lt hn
      rw [hlength] at hlt
      exact ⟨n, hn, Nat.lt_trans hlt (by decide)⟩

theorem duringEntry_cons (word : Word) {entry : DuringEntry}
    (h : DuringEntry.ofToken? word.token = some entry) (rest : List Word) :
    duringEntry (word :: rest) = (.ok entry, rest) := by
  rw [duringEntry, bind_of_ok (nextToken_cons word rest), h]
  rfl

theorem readsAs_duringEntry {entry : DuringEntry} (h : entry.WellFormed)
    (next : List Word → Prop) :
    ReadsAs duringEntry entry.text.toList entry next := by
  cases entry with
  | date day =>
      have hday : InFourDigits day := h
      have hspells := (isNumber_writeDay hday).spells (by simp) (by simp)
      refine ⟨_, hspells, fun rest _ => duringEntry_cons _ ?_ rest⟩
      simp [DuringEntry.ofToken?, Word.ofToken, hday.compactDay?_writeDay]
  | name range =>
      refine ⟨_, (isIdentifier_rangeWord range).spells,
        fun rest _ => duringEntry_cons _ ?_ rest⟩
      simp [DuringEntry.ofToken?, Word.identifier, Word.ofToken, ofWord?_word]

theorem readsAs_duringClause {during : During} (h : during.WellFormed) :
    ReadsAs duringClause during.text.toList during (From 3) := by
  have hentries : ∀ entries : List DuringEntry, entries ≠ [] →
      (∀ entry ∈ entries, entry.WellFormed) →
      ReadsAs (separated .comma (fun _ => duringEntry) [])
        (Text.join "," (entries.map DuringEntry.text)).toList entries
          (From 3) := by
    intro entries hne hwellFormed
    refine readsAs_separated (fun _ _ => Spells.narrowComma) ?_ hne ?_
    · intro rest hrest
      exact hrest.ne (by decide)
    · rintro before entry after rfl
      exact readsAs_duringEntry (hwellFormed entry (by simp)) _
  cases during with
  | named range =>
      obtain ⟨words, hspells, hread⟩ := hentries [.name range] (by simp)
        (by simp [DuringEntry.WellFormed])
      refine ⟨words, hspells, fun rest hrest => ?_⟩
      rw [duringClause, bind_of_ok (hread rest hrest)]
      rfl
  | days span =>
      have hspan : InFourDigits span.start ∧ InFourDigits span.stop := h
      obtain ⟨words, hspells, hread⟩ :=
        hentries [.date span.start, .date span.stop] (by simp)
        (by simpa [DuringEntry.WellFormed] using hspan)
      refine ⟨words, hspells, fun rest hrest => ?_⟩
      rw [duringClause, bind_of_ok (hread rest hrest)]
      rfl

/-! ## Positions and numbers of rows -/

theorem reference_cons {items : List SelectItem} (code : SyntaxCode)
    (word : Word) {p : ColumnPosition}
    (h : resolveReference items word.token = some p) (rest : List Word) :
    reference items code (word :: rest) = (.ok p, rest) := by
  rw [reference, bind_of_ok (nextToken_cons word rest), h]
  rfl

theorem readsAs_reference {items : List SelectItem}
    (hlength : items.length < Numeral.signedBound) {p : ColumnPosition}
    (h : p.RefersTo items) (code : SyntaxCode) (next : List Word → Prop) :
    ReadsAs (reference items code) (Numeral.ofNat p.position).toList
      p next := by
  have hbound : p.position < Numeral.signedBound :=
    Nat.lt_of_le_of_lt h.bounds.2 hlength
  have hchars : (Numeral.ofNat p.position).toList =
      Nat.toDigits 10 p.position := Nat.toList_repr
  obtain ⟨item, hitem, hcolumn⟩ := h
  refine ⟨_, (isNumber_ofNat hbound).spells (by simp) (by simp),
    fun rest _ => ?_⟩
  refine reference_cons code _ ?_ rest
  simp [resolveReference, Word.ofToken, hchars, Numeral.natural?_toDigits,
    hitem, ← hcolumn]

/-- The entries of a clause behind BY. -/
theorem readsAs_listBy {α : Type} {entry : Parser α} {text : α → String}
    {place : Nat} (hplace : clausePlace .comma < place) {as : List α}
    (hne : as ≠ [])
    (h : ∀ a ∈ as, ReadsAs entry (text a).toList a fun rest => From place rest ∨
      ∃ tail, rest = Word.ofToken .comma "," :: tail)
    (code : SyntaxCode) :
    ReadsAs
      (do let _ ← expect (.keyword .byWord) code
          separated .comma (fun _ => entry) [])
      (Keyword.byWord.spelling.toList ++
        ' ' :: (Text.join ", " (as.map text)).toList)
      as (From place) := by
  have hentries : ReadsAs (separated .comma (fun _ => entry) [])
      (Text.join ", " (as.map text)).toList as (From place) := by
    refine readsAs_separated (fun _ _ => Spells.comma) ?_ hne ?_
    · intro rest hrest
      exact hrest.ne hplace
    · rintro before a after rfl
      exact h a (by simp)
  obtain ⟨words, hspells, hread⟩ := hentries
  refine ⟨_, hspells.after_keyword .byWord, fun rest hrest => ?_⟩
  change separated .comma (fun _ => entry) [] (words ++ rest) = _
  exact hread rest hrest

theorem readsAs_groupByClause {items : List SelectItem}
    (hlength : items.length < Numeral.signedBound)
    {groupBy : List ColumnPosition} (hne : groupBy ≠ [])
    (h : ∀ p ∈ groupBy, p.RefersTo items) :
    ReadsAs (groupByClause items)
      (Keyword.byWord.spelling.toList ++
        ' ' ::
          (Text.join ", " (groupBy.map fun p =>
            Numeral.ofNat p.position)).toList)
      groupBy (From 4) :=
  readsAs_listBy (by decide) hne
    (fun p hp => readsAs_reference hlength (h p hp) _ _) _

/-- A direction is told from the next entry and from the later clauses. -/
theorem isDescending_of_ne {rest : List Word}
    (hdesc : nextKind rest ≠ .keyword .desc)
    (hasc : nextKind rest ≠ .keyword .asc) :
    isDescending rest = (.ok false, rest) := by
  rw [isDescending, bind_of_ok (accept_of_ne hdesc)]
  change (accept (.keyword .asc) >>= fun _ => _) rest = _
  rw [bind_of_ok (accept_of_ne hasc)]
  rfl

theorem readsAs_orderEntry {items : List SelectItem}
    (hlength : items.length < Numeral.signedBound) {entry : OrderEntry}
    (h : entry.target.RefersTo items) :
    ReadsAs (orderEntry items) entry.text.toList entry
      fun rest => From 5 rest ∨ ∃ tail, rest =
        Word.ofToken .comma "," :: tail := by
  obtain ⟨target, descending⟩ := entry
  obtain ⟨words, hspells, hread⟩ :=
    readsAs_reference hlength h .invalidOrderBy fun _ => True
  cases descending with
  | true =>
      have hwords := hspells.append (spells_keyword .desc).spaced
      refine ⟨_, by simpa [OrderEntry.text, Keyword.spelling] using hwords,
        fun rest _ => ?_⟩
      rw [List.append_assoc, orderEntry, bind_of_ok (hread _ trivial)]
      rfl
  | false =>
      refine ⟨words, by simpa [OrderEntry.text] using hspells,
        fun rest hrest => ?_⟩
      have hascending : isDescending rest = (.ok false, rest) := by
        rcases hrest with hfrom | ⟨tail, rfl⟩
        · exact isDescending_of_ne (hfrom.ne (by decide)) (hfrom.ne (by decide))
        · exact isDescending_of_ne nofun nofun
      rw [orderEntry, bind_of_ok (hread _ trivial), bind_of_ok hascending]
      rfl

theorem readsAs_orderByClause {items : List SelectItem}
    (hlength : items.length < Numeral.signedBound) {orderBy : List OrderEntry}
    (hne : orderBy ≠ []) (h : ∀ entry ∈ orderBy, entry.target.RefersTo items) :
    ReadsAs (orderByClause items)
      (Keyword.byWord.spelling.toList ++
        ' ' :: (Text.join ", " (orderBy.map OrderEntry.text)).toList)
      orderBy (From 5) :=
  readsAs_listBy (by decide) hne
    (fun entry hentry => readsAs_orderEntry hlength (h entry hentry)) _

theorem rowNumber_cons (n : Nat) (rest : List Word) :
    rowNumber (Word.ofToken .digits (Numeral.ofNat n) :: rest) =
      (.ok n, rest) := by
  have hchars : (Numeral.ofNat n).toList = Nat.toDigits 10 n := Nat.toList_repr
  rw [rowNumber, bind_of_ok (nextToken_cons _ _)]
  simp [Word.ofToken, hchars, Numeral.natural?_toDigits]

theorem readsAs_limitClause {limit : Limit} (h : limit.WellFormed) :
    ReadsAs limitClause limit.text.toList limit (From 6) := by
  obtain ⟨offset, count⟩ := limit
  have hcount := (isNumber_ofNat h.count).spells (by simp) (by simp)
  by_cases hzero : 0 < offset
  · have hoffset := (isNumber_ofNat h.offset).spells (by simp) (by simp)
    refine ⟨_, by simpa [Limit.text, hzero] using hoffset.append hcount.comma,
      fun rest _ => ?_⟩
    change limitClause (Word.ofToken .digits (Numeral.ofNat offset) ::
      Word.ofToken .comma "," ::
      Word.ofToken .digits (Numeral.ofNat count) :: rest) = _
    rw [limitClause, bind_of_ok (rowNumber_cons offset _)]
    change (rowNumber >>= fun count => _)
      (Word.ofToken .digits (Numeral.ofNat count) :: rest) = _
    rw [bind_of_ok (rowNumber_cons count _)]
    rfl
  · obtain rfl : offset = 0 := Nat.eq_zero_of_not_pos hzero
    refine ⟨_, by simpa [Limit.text] using hcount, fun rest hrest => ?_⟩
    rw [List.singleton_append, limitClause, bind_of_ok (rowNumber_cons count _),
      bind_of_ok (accept_of_ne (hrest.ne (by decide)))]
    rfl

end ReportQuery
