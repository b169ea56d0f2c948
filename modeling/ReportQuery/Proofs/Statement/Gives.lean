import ReportQuery.Statement.Parser

/-!
# What parsers give

A parser on the words left of a list gives values of some kind, when it gives
one at all, and leaves words of that list. The rules below follow the
combinators, so that a fact about a statement is read off the parser of each of
its clauses.
-/

namespace ReportQuery.Parser

variable {α β : Type} {whole : List Word} {P : α → Prop} {Q : β → Prop}

/-- From the words left of a list, every value of the parser satisfies `P`, and
words of the list are left again. -/
def Gives (whole : List Word) (parser : Parser α) (P : α → Prop) : Prop :=
  ∀ words, words <:+ whole → ∀ a rest, parser words = (.ok a, rest) →
    P a ∧ rest <:+ whole

theorem Gives.mono {parser : Parser α} {P' : α → Prop}
    (h : Gives whole parser P) (himp : ∀ a, P a → P' a) :
    Gives whole parser P' := by
  intro words hwords a rest hrun
  obtain ⟨ha, hrest⟩ := h words hwords a rest hrun
  exact ⟨himp a ha, hrest⟩

theorem gives_pure {a : α} (h : P a) : Gives whole (pure a) P := by
  intro words hwords b rest hrun
  obtain ⟨rfl, rfl⟩ : a = b ∧ words = rest := by simpa using hrun
  exact ⟨h, hwords⟩

theorem gives_fail (error : ParseError) :
    Gives whole (fail error : Parser α) P := by
  intro words hwords b rest hrun
  simp at hrun

theorem gives_failAt (code : SyntaxCode) (token : Token) :
    Gives whole (failAt code token : Parser α) P :=
  gives_fail _

/-- A value of two parsers comes from a value of the first one. -/
theorem bind_eq_ok_iff {first : Parser α} {second : α → Parser β}
    {words rest : List Word} {b : β} :
    (first >>= second) words = (.ok b, rest) ↔
      ∃ a left, first words = (.ok a, left) ∧
        second a left = (.ok b, rest) := by
  rw [bind_apply]
  split
  · next a left hfirst => simp [hfirst, and_assoc]
  · next error left hfirst => simp [hfirst]

/-- The second parser may rely on what the first one gives. -/
theorem Gives.bind {first : Parser α} {second : α → Parser β}
    (hfirst : Gives whole first P)
    (hsecond : ∀ a, P a → Gives whole (second a) Q) :
    Gives whole (first >>= second) Q := by
  intro words hwords b rest hrun
  obtain ⟨a, middle, hmiddle, hlast⟩ := bind_eq_ok_iff.mp hrun
  obtain ⟨ha, hleft⟩ := hfirst words hwords a middle hmiddle
  exact hsecond a ha middle hleft b rest hlast

/-- The words behind the first one that is left are left of the list as well. -/
theorem suffix_of_cons {word : Word} {rest : List Word}
    (h : word :: rest <:+ whole) : word ∈ whole ∧ rest <:+ whole :=
  ⟨h.subset List.mem_cons_self, (List.suffix_cons word rest).trans h⟩

theorem gives_nextToken :
    Gives whole nextToken fun token =>
      token = Token.ending ∨ ∃ word ∈ whole, word.token = token := by
  intro words hwords token rest hrun
  cases words with
  | nil =>
      obtain ⟨rfl, rfl⟩ : Token.ending = token ∧ [] = rest := by
        simpa using hrun
      exact ⟨Or.inl rfl, hwords⟩
  | cons word tail =>
      obtain ⟨rfl, rfl⟩ : word.token = token ∧ tail = rest := by
        simpa using hrun
      obtain ⟨hword, htail⟩ := suffix_of_cons hwords
      exact ⟨Or.inr ⟨word, hword, rfl⟩, htail⟩

theorem accept_suffix (kind : TokenKind) (words : List Word) :
    (accept kind words).2 <:+ words := by
  cases words with
  | nil => exact List.suffix_refl []
  | cons word tail =>
      rw [accept]
      split
      · exact List.suffix_cons word tail
      · exact List.suffix_refl _

theorem exists_accept_eq_ok (kind : TokenKind) (words : List Word) :
    ∃ taken rest, accept kind words = (.ok taken, rest) := by
  cases words with
  | nil => exact ⟨false, [], rfl⟩
  | cons word tail =>
      rw [accept]
      split
      · exact ⟨true, tail, rfl⟩
      · exact ⟨false, word :: tail, rfl⟩

theorem gives_accept (kind : TokenKind) :
    Gives whole (accept kind) fun _ => True := by
  intro words hwords taken rest hrun
  have hleft := accept_suffix kind words
  rw [hrun] at hleft
  exact ⟨trivial, hleft.trans hwords⟩

theorem gives_acceptCall : Gives whole acceptCall fun _ => True := by
  intro words hwords taken rest hrun
  refine ⟨trivial, ?_⟩
  cases words with
  | nil =>
      obtain ⟨-, rfl⟩ : false = taken ∧ [] = rest := by
        simpa [acceptCall] using hrun
      exact hwords
  | cons word tail =>
      simp only [acceptCall] at hrun
      split at hrun
      · obtain ⟨-, rfl⟩ : true = taken ∧ tail = rest := by simpa using hrun
        exact (suffix_of_cons hwords).2
      · obtain ⟨-, rfl⟩ : false = taken ∧ word :: tail = rest := by
          simpa using hrun
        exact hwords

/-- An expected literal is that of a word of the kind, unless the end is
expected. -/
theorem gives_expect {kind : TokenKind} (code : SyntaxCode)
    (hkind : kind ≠ .ending) :
    Gives whole (expect kind code) fun literal =>
      ∃ word ∈ whole, word.token.kind = kind ∧
        word.token.literal = literal := by
  refine gives_nextToken.bind fun token htoken => ?_
  split
  · next hmatch =>
      apply gives_pure
      rcases htoken with rfl | ⟨word, hword, rfl⟩
      · exact absurd hmatch.symm hkind
      · exact ⟨word, hword, hmatch, rfl⟩
  · exact gives_failAt code token

theorem gives_identifier? :
    Gives whole identifier? fun found => ∀ literal ∈ found,
      ∃ word ∈ whole, word.token.kind = .identifier ∧
        word.token.literal = literal := by
  intro words hwords found rest hrun
  cases words with
  | nil =>
      obtain ⟨rfl, rfl⟩ : none = found ∧ [] = rest := by
        simpa [identifier?] using hrun
      exact ⟨by simp, hwords⟩
  | cons word tail =>
      simp only [identifier?] at hrun
      split at hrun
      · next hkind =>
          obtain ⟨rfl, rfl⟩ : some word.token.literal = found ∧
              tail = rest := by
            simpa using hrun
          obtain ⟨hword, htail⟩ := suffix_of_cons hwords
          refine ⟨?_, htail⟩
          rintro literal ⟨⟩
          exact ⟨word, hword, hkind, rfl⟩
      · obtain ⟨rfl, rfl⟩ : none = found ∧ word :: tail = rest := by
          simpa using hrun
        exact ⟨by simp, hwords⟩

/-! ## Lists of entries -/

/-- What each entry keeps of the entries before it holds of all of them. -/
theorem gives_separated_of_step {separator : TokenKind}
    {entry : List α → Parser α} {I : List α → Prop}
    (hentry : ∀ before words a rest, I before → words <:+ whole →
      entry before words = (.ok a, rest) → I (before ++ [a]) ∧ rest <:+ whole)
    {before : List α} (hbefore : I before) :
    Gives whole (separated separator entry before) fun entries => entries ≠ [] ∧
      I entries := by
  intro words hwords entries rest hrun
  have hleft : ∀ {left left' : List Word} {found : Except ParseError Bool},
      accept separator left = (found, left') → left <:+ whole →
      left' <:+ whole := by
    intro left left' found hfound hsuffix
    have htaken := accept_suffix separator left
    rw [hfound] at htaken
    exact htaken.trans hsuffix
  fun_induction separated separator entry before words with
  | case1 before words error left hfailed => simp at hrun
  | case2 before words a left hgiven left' hmore hshorter ih =>
      obtain ⟨hafter, hwords'⟩ :=
        hentry before words a left hbefore hwords hgiven
      exact ih hafter (hleft hmore hwords') hrun
  | case3 before words a left hgiven left' hmore hlonger =>
      obtain ⟨hafter, hwords'⟩ :=
        hentry before words a left hbefore hwords hgiven
      obtain ⟨rfl, rfl⟩ : before ++ [a] = entries ∧ left' = rest := by
        simpa using hrun
      exact ⟨⟨by simp, hafter⟩, hleft hmore hwords'⟩
  | case4 before words a left hgiven found left' hlast hfound =>
      obtain ⟨hafter, hwords'⟩ :=
        hentry before words a left hbefore hwords hgiven
      obtain ⟨rfl, rfl⟩ : before ++ [a] = entries ∧ left' = rest := by
        simpa using hrun
      exact ⟨⟨by simp, hafter⟩, hleft hfound hwords'⟩

/-- An entry may rely on what the entries before it satisfy. -/
theorem gives_separated {separator : TokenKind} {entry : List α → Parser α}
    (hentry : ∀ before, (∀ a ∈ before, P a) → Gives whole (entry before) P)
    {before : List α} (hbefore : ∀ a ∈ before, P a) :
    Gives whole (separated separator entry before) fun entries =>
      entries ≠ [] ∧ ∀ a ∈ entries, P a := by
  refine gives_separated_of_step (I := fun entries => ∀ a ∈ entries, P a) ?_
    hbefore
  intro before words a rest hbefore hwords hrun
  obtain ⟨ha, hrest⟩ := hentry before hbefore words hwords a rest hrun
  exact ⟨List.forall_mem_append.mpr ⟨hbefore, by simpa using ha⟩, hrest⟩

/-- Each entry is read from words left of a list, by a parser that sees the
entries before it. -/
def ReadInTurn (whole : List Word) (entry : List α → Parser α)
    (entries : List α) : Prop :=
  ∀ i a, entries[i]? = some a →
    ∃ words rest, words <:+ whole ∧ entry (entries.take i) words = (.ok a, rest)

theorem readInTurn_nil (whole : List Word) (entry : List α → Parser α) :
    ReadInTurn whole entry [] := by
  intro i a ha
  simp at ha

theorem ReadInTurn.concat {entry : List α → Parser α} {before : List α}
    (h : ReadInTurn whole entry before) {words rest : List Word} {a : α}
    (hwords : words <:+ whole) (hrun : entry before words = (.ok a, rest)) :
    ReadInTurn whole entry (before ++ [a]) := by
  intro i b hb
  rcases Nat.lt_trichotomy i before.length with hlt | rfl | hgt
  · rw [List.getElem?_append_left hlt] at hb
    rw [List.take_append_of_le_length (Nat.le_of_lt hlt)]
    exact h i b hb
  · obtain rfl : a = b := by simpa using hb
    exact ⟨words, rest, hwords, by rw [List.take_left]; exact hrun⟩
  · simp [List.getElem?_eq_none (l := before ++ [a]) (i := i)
      (by simp; omega)] at hb

/-- Entries that take a word each are no more than the words. -/
theorem length_separated_le {separator : TokenKind} {entry : List α → Parser α}
    (hentry : ∀ before a rest, entry before [] ≠ (.ok a, rest))
    {before : List α} {words : List Word} {entries : List α} {rest : List Word}
    (h : separated separator entry before words = (.ok entries, rest)) :
    entries.length ≤ before.length + words.length := by
  have hword : ∀ {before : List α} {words left : List Word} {a : α},
      entry before words = (.ok a, left) → 0 < words.length := by
    intro before words left a hgiven
    apply List.length_pos_iff.mpr
    rintro rfl
    exact hentry before a left hgiven
  fun_induction separated separator entry before words with
  | case1 before words error left hfailed => simp at h
  | case2 before words a left hgiven left' hmore hshorter ih =>
      have hlength := ih h
      rw [List.length_append, List.length_singleton] at hlength
      omega
  | case3 before words a left hgiven left' hmore hlonger =>
      obtain ⟨rfl, -⟩ : before ++ [a] = entries ∧ left' = rest := by
        simpa using h
      have hpos := hword hgiven
      rw [List.length_append, List.length_singleton]
      omega
  | case4 before words a left hgiven found left' hlast hfound =>
      obtain ⟨rfl, -⟩ : before ++ [a] = entries ∧ left' = rest := by
        simpa using h
      have hpos := hword hgiven
      rw [List.length_append, List.length_singleton]
      omega

/-! ## Clauses -/

theorem gives_optional (kind : TokenKind) {parser : Parser α}
    (h : Gives whole parser P) :
    Gives whole (optional kind parser) fun found => ∀ a ∈ found, P a := by
  refine (gives_accept kind).bind fun taken _ => ?_
  split
  · refine h.bind fun a ha => gives_pure ?_
    rintro b ⟨⟩
    exact ha
  · exact gives_pure (by simp)

theorem gives_clause (kind : TokenKind) {parser : Parser (List α)}
    (h : Gives whole parser fun entries => entries ≠ [] ∧ ∀ a ∈ entries, P a) :
    Gives whole (clause kind parser) fun entries => ∀ a ∈ entries, P a := by
  refine (gives_accept kind).bind fun taken _ => ?_
  split
  · exact h.mono fun entries hentries => hentries.2
  · exact gives_pure (by simp)

/-! ## Words that are known -/

/-- Every value that the parser gives on these words satisfies `P`. -/
def GivesOn (words : List Word) (parser : Parser α) (P : α → Prop) : Prop :=
  ∀ a rest, parser words = (.ok a, rest) → P a

section Known

variable {words : List Word}

theorem givesOn_pure {a : α} (h : P a) : GivesOn words (pure a) P := by
  intro b rest hrun
  obtain ⟨rfl, -⟩ : a = b ∧ words = rest := by simpa using hrun
  exact h

theorem givesOn_fail (error : ParseError) :
    GivesOn words (fail error : Parser α) P := by
  intro a rest hrun
  simp at hrun

/-- The second parser runs on the words that the first one leaves. -/
theorem givesOn_bind {first : Parser α} {second : α → Parser β}
    (h : ∀ a left, first words = (.ok a, left) → GivesOn left (second a) Q) :
    GivesOn words (first >>= second) Q := by
  intro b rest hrun
  obtain ⟨a, left, hfirst, hsecond⟩ := bind_eq_ok_iff.mp hrun
  exact h a left hfirst b rest hsecond

theorem givesOn_bind_of_ok {first : Parser α} {second : α → Parser β}
    {left : List Word} {a : α} (hfirst : first words = (.ok a, left))
    (h : GivesOn left (second a) Q) : GivesOn words (first >>= second) Q := by
  intro b rest hrun
  rw [bind_of_ok hfirst] at hrun
  exact h b rest hrun

end Known

end ReportQuery.Parser
