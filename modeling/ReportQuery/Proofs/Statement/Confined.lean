import ReportQuery.Proofs.Statement.Gives
import ReportQuery.Proofs.Token.Concatenation

/-!
# What stands behind a statement

A parser may read on into words that are put behind a list: a condition can be
followed by another one, and a name by its alias. It cannot when the list ends
with a word that ends a statement. No parser takes such a word, save for the
one that reads the end of a statement, and that one stops there.

A parser is confined when, on lists of this kind, neither its value nor the
words it takes change with what is put behind. The rules follow the
combinators. Only values are looked at: a parser that fails may fail in another
way when more words come.
-/

namespace ReportQuery

/-- A word that ends a statement, and that no call takes for its parenthesis. -/
structure Word.Closes (word : Word) : Prop where
  kind : word.token.kind.Closes
  opensCall : word.opensCall = false

/-- Words of which the last one ends a statement. -/
def EndsClosed (words : List Word) : Prop :=
  ∃ word ∈ words.getLast?, word.Closes

/-- What can be left behind a statement of such words. -/
def NoneOrClosed (words : List Word) : Prop :=
  words = [] ∨ EndsClosed words

theorem NoneOrClosed.endsClosed {word : Word} {tail : List Word}
    (h : NoneOrClosed (word :: tail)) : EndsClosed (word :: tail) :=
  h.resolve_left (List.cons_ne_nil word tail)

theorem EndsClosed.exists_cons {words : List Word} (h : EndsClosed words) :
    ∃ word tail, words = word :: tail := by
  obtain ⟨last, hlast, -⟩ := h
  cases words with
  | nil => simp at hlast
  | cons word tail => exact ⟨word, tail, rfl⟩

theorem EndsClosed.noneOrClosed_tail {word : Word} {tail : List Word}
    (h : EndsClosed (word :: tail)) : NoneOrClosed tail := by
  obtain ⟨last, hlast, hcloses⟩ := h
  cases tail with
  | nil => exact Or.inl rfl
  | cons next tail =>
      rw [List.getLast?_cons_cons] at hlast
      exact Or.inr ⟨last, hlast, hcloses⟩

/-- A word that does not end a statement is not the last one. -/
theorem EndsClosed.tail {word : Word} {tail : List Word}
    (h : EndsClosed (word :: tail)) (hword : ¬ word.Closes) :
    EndsClosed tail := by
  rcases h.noneOrClosed_tail with rfl | htail
  · obtain ⟨last, hlast, hcloses⟩ := h
    obtain rfl : word = last := by simpa using hlast
    exact absurd hcloses hword
  · exact htail

namespace Parser

variable {α β : Type} {before middle after : List Word → Prop}

/-- On words that satisfy `before`, every value of the parser stays when more
words are put behind, and the words that it leaves, which satisfy `after`, are
followed by those. -/
def Confined (before after : List Word → Prop) (parser : Parser α) : Prop :=
  ∀ words, before words → ∀ a rest, parser words = (.ok a, rest) →
    rest <:+ words ∧ after rest ∧
    ∀ more, parser (words ++ more) = (.ok a, rest ++ more)

theorem confined_pure (a : α) : Confined before before (pure a) := by
  intro words hwords b rest hrun
  obtain ⟨rfl, rfl⟩ : a = b ∧ words = rest := by simpa using hrun
  exact ⟨List.suffix_refl _, hwords, fun _ => rfl⟩

theorem confined_fail (error : ParseError) :
    Confined before after (fail error : Parser α) := by
  intro words hwords b rest hrun
  simp at hrun

theorem Confined.bind {first : Parser α} {second : α → Parser β}
    (hfirst : Confined before middle first)
    (hsecond : ∀ a, Confined middle after (second a)) :
    Confined before after (first >>= second) := by
  intro words hwords b rest hrun
  rw [bind_apply] at hrun
  split at hrun
  · next a left hleft =>
      obtain ⟨hsuffix, hmiddle, hfirst'⟩ := hfirst words hwords a left hleft
      obtain ⟨hsuffix', hafter, hsecond'⟩ := hsecond a left hmiddle b rest hrun
      refine ⟨hsuffix'.trans hsuffix, hafter, fun more => ?_⟩
      rw [bind_of_ok (hfirst' more), hsecond' more]
  · simp at hrun

/-! ## One word -/

/-- A parser that looks at the next word and takes it, unless it ends a
statement, or leaves it. -/
theorem confined_of_next {parser : Parser α}
    (h : ∀ word, ∃ a, (∀ tail, parser (word :: tail) = (.ok a, word :: tail)) ∨
      ¬ word.Closes ∧ ∀ tail, parser (word :: tail) = (.ok a, tail)) :
    Confined EndsClosed EndsClosed parser := by
  intro words hwords b rest hrun
  obtain ⟨word, tail, rfl⟩ := hwords.exists_cons
  obtain ⟨a, hleaves | ⟨hopen, htakes⟩⟩ := h word
  · obtain ⟨rfl, rfl⟩ : a = b ∧ word :: tail = rest := by
      simpa [hleaves tail] using hrun
    exact ⟨List.suffix_refl _, hwords, fun more => hleaves (tail ++ more)⟩
  · obtain ⟨rfl, rfl⟩ : a = b ∧ tail = rest := by simpa [htakes tail] using hrun
    exact ⟨List.suffix_cons word tail, hwords.tail hopen,
      fun more => htakes (tail ++ more)⟩

theorem confined_accept {kind : TokenKind} (hkind : ¬ kind.Closes) :
    Confined EndsClosed EndsClosed (accept kind) := by
  refine confined_of_next fun word => ?_
  by_cases hmatch : word.token.kind = kind
  · exact ⟨true, Or.inr ⟨fun hcloses => hkind (hmatch ▸ hcloses.kind),
      fun _ => if_pos hmatch⟩⟩
  · exact ⟨false, Or.inl fun _ => if_neg hmatch⟩

theorem confined_acceptCall : Confined EndsClosed EndsClosed acceptCall := by
  refine confined_of_next fun word => ?_
  by_cases hopens : word.opensCall = true
  · refine ⟨true, Or.inr ⟨fun hcloses => ?_, fun _ => if_pos hopens⟩⟩
    exact absurd (hcloses.opensCall.symm.trans hopens) Bool.false_ne_true
  · exact ⟨false, Or.inl fun _ => if_neg hopens⟩

theorem confined_identifier? : Confined EndsClosed EndsClosed identifier? := by
  refine confined_of_next fun word => ?_
  by_cases hmatch : word.token.kind = .identifier
  · refine ⟨_, Or.inr ⟨fun hcloses => ?_, fun _ => if_pos hmatch⟩⟩
    exact absurd (hmatch ▸ hcloses.kind) (by decide)
  · exact ⟨none, Or.inl fun _ => if_neg hmatch⟩

/-- Whatever the next token is, only the word that it belongs to is taken. -/
theorem confined_nextToken : Confined EndsClosed NoneOrClosed nextToken := by
  intro words hwords token rest hrun
  obtain ⟨word, tail, rfl⟩ := hwords.exists_cons
  obtain ⟨rfl, rfl⟩ : word.token = token ∧ tail = rest := by simpa using hrun
  exact ⟨List.suffix_cons word tail, hwords.noneOrClosed_tail, fun _ => rfl⟩

/-- A parser that refuses the tokens which end a statement. -/
def RefusesEnds (second : Token → Parser α) : Prop :=
  ∀ literal, (∃ error, second ⟨.semicolon, literal⟩ = fail error) ∧
    ∃ error, second ⟨.vertical, literal⟩ = fail error

theorem RefusesEnds.exists_fail {second : Token → Parser α}
    (h : RefusesEnds second) {token : Token} (hcloses : token.kind.Closes) :
    ∃ error, second token = fail error := by
  obtain ⟨kind, literal⟩ := token
  obtain rfl | rfl : kind = .semicolon ∨ kind = .vertical := hcloses
  · exact (h literal).1
  · exact (h literal).2

section nextToken

variable {second : Token → Parser α} (hrefuses : RefusesEnds second)
  (hsecond : ∀ token, Confined EndsClosed after (second token))
include hrefuses hsecond

/-- The word of the next token is not among those that are left. -/
theorem confined_tail {word : Word} {tail : List Word}
    (hwords : EndsClosed (word :: tail)) {a : α} {rest : List Word}
    (hrun : (nextToken >>= second) (word :: tail) = (.ok a, rest)) :
    rest <:+ tail ∧ after rest ∧
      ∀ more, (nextToken >>= second) (word :: tail ++ more) =
        (.ok a, rest ++ more) := by
  have hrun' : second word.token tail = (.ok a, rest) := hrun
  have hopen : ¬ word.Closes := by
    intro hcloses
    obtain ⟨error, herror⟩ := hrefuses.exists_fail hcloses.kind
    rw [herror] at hrun'
    simp at hrun'
  exact hsecond word.token tail (hwords.tail hopen) a rest hrun'

theorem confined_nextToken_bind :
    Confined EndsClosed after (nextToken >>= second) := by
  intro words hwords a rest hrun
  obtain ⟨word, tail, rfl⟩ := hwords.exists_cons
  obtain ⟨hsuffix, hrest⟩ := confined_tail hrefuses hsecond hwords hrun
  exact ⟨hsuffix.trans (List.suffix_cons word tail), hrest⟩

end nextToken

theorem confined_expect {kind : TokenKind} (hkind : ¬ kind.Closes)
    (code : SyntaxCode) :
    Confined EndsClosed EndsClosed (expect kind code) := by
  refine confined_nextToken_bind ?_ fun token => ?_
  · intro literal
    exact ⟨⟨_, if_neg fun hmatch => hkind (Or.inl hmatch.symm)⟩,
      ⟨_, if_neg fun hmatch => hkind (Or.inr hmatch.symm)⟩⟩
  · split
    · exact confined_pure _
    · exact confined_fail _

theorem confined_identifier (code : SyntaxCode) :
    Confined EndsClosed EndsClosed (identifier code) :=
  confined_expect (by decide) code

/-! ## Lists of entries and clauses -/

/-- One round of a list: an entry, and the separator when it comes next. -/
theorem confined_round {separator : TokenKind} (hseparator : ¬ separator.Closes)
    {entry : Parser α} (hentry : Confined EndsClosed EndsClosed entry)
    {words left left' : List Word} (hwords : EndsClosed words) {a : α}
    {taken : Bool} (hgiven : entry words = (.ok a, left))
    (hmore : accept separator left = (.ok taken, left')) :
    left' <:+ words ∧ EndsClosed left' ∧
      ∀ more, entry (words ++ more) = (.ok a, left ++ more) ∧
        accept separator (left ++ more) = (.ok taken, left' ++ more) := by
  obtain ⟨hsuffix, hleft, hentry'⟩ := hentry words hwords a left hgiven
  obtain ⟨hsuffix', hleft', haccept⟩ :=
    confined_accept hseparator left hleft taken left' hmore
  exact ⟨hsuffix'.trans hsuffix, hleft',
    fun more => ⟨hentry' more, haccept more⟩⟩

theorem confined_separated {separator : TokenKind}
    (hseparator : ¬ separator.Closes) {entry : List α → Parser α}
    (hentry : ∀ earlier, Confined EndsClosed EndsClosed (entry earlier))
    (earlier : List α) :
    Confined EndsClosed EndsClosed (separated separator entry earlier) := by
  intro words hwords entries rest hrun
  fun_induction separated separator entry earlier words with
  | case1 earlier words error left hfailed => simp at hrun
  | case2 earlier words a left hgiven left' hmore hshorter ih =>
      obtain ⟨hsuffix, hleft, hround'⟩ :=
        confined_round hseparator (hentry earlier) hwords hgiven hmore
      obtain ⟨hsuffix', hrest, hlater⟩ := ih hleft hrun
      refine ⟨hsuffix'.trans hsuffix, hrest, fun more => ?_⟩
      have hlength : (left' ++ more).length < (words ++ more).length := by
        simpa using hshorter
      rw [separated, (hround' more).1]
      simp only [(hround' more).2, if_pos hlength, hlater more]
  | case3 earlier words a left hgiven left' hmore hlonger =>
      obtain ⟨rfl, rfl⟩ : earlier ++ [a] = entries ∧ left' = rest := by
        simpa using hrun
      obtain ⟨hsuffix, hleft, hround'⟩ :=
        confined_round hseparator (hentry earlier) hwords hgiven hmore
      refine ⟨hsuffix, hleft, fun more => ?_⟩
      have hlength : ¬ (left' ++ more).length < (words ++ more).length := by
        simpa using hlonger
      rw [separated, (hround' more).1]
      simp only [(hround' more).2, if_neg hlength]
  | case4 earlier words a left hgiven found left' hlast hfound =>
      obtain ⟨rfl, rfl⟩ : earlier ++ [a] = entries ∧ left' = rest := by
        simpa using hrun
      obtain ⟨taken, left'', haccept⟩ := exists_accept_eq_ok separator left
      obtain ⟨rfl, rfl⟩ := Prod.mk.inj (haccept.symm.trans hfound)
      obtain ⟨hsuffix, hleft, hround'⟩ :=
        confined_round hseparator (hentry earlier) hwords hgiven haccept
      refine ⟨hsuffix, hleft, fun more => ?_⟩
      rw [separated, (hround' more).1]
      simp only [(hround' more).2]

theorem confined_optional {kind : TokenKind} (hkind : ¬ kind.Closes)
    {parser : Parser α} (h : Confined EndsClosed EndsClosed parser) :
    Confined EndsClosed EndsClosed (optional kind parser) := by
  refine (confined_accept hkind).bind fun taken => ?_
  split
  · exact h.bind fun a => confined_pure _
  · exact confined_pure _

theorem confined_clause {kind : TokenKind} (hkind : ¬ kind.Closes)
    {parser : Parser (List α)} (h : Confined EndsClosed EndsClosed parser) :
    Confined EndsClosed EndsClosed (clause kind parser) := by
  refine (confined_accept hkind).bind fun taken => ?_
  split
  · exact h
  · exact confined_pure _

end Parser

end ReportQuery
