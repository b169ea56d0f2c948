import ReportQuery.Proofs.Token.Spelling
import ReportQuery.Statement.Grammar

/-!
# Texts that a parser reads

A text is read as a value when it spells words that the parser takes, all of
them and no more, and gives the value for. How far a parser reads depends on
the word that comes next, so each text is read as its value in front of certain
words only.
-/

namespace ReportQuery

open ReportQuery.Parser

/-- The kind of the word that comes next. -/
def nextKind : List Word → TokenKind
  | [] => .ending
  | word :: _ => word.token.kind

/-- The text is read as the value in front of certain words. -/
def ReadsAs {α : Type} (parser : Parser α) (cs : List Char) (a : α)
    (next : List Word → Prop) : Prop :=
  ∃ words, Spells cs words ∧ ∀ rest, next rest →
    parser (words ++ rest) = (.ok a, rest)

namespace Parser

variable {α β : Type} {kind : TokenKind} {rest : List Word}

theorem accept_cons {word : Word} (h : word.token.kind = kind)
    (rest : List Word) : accept kind (word :: rest) = (.ok true, rest) := by
  rw [accept, if_pos h]

theorem accept_of_ne (h : nextKind rest ≠ kind) :
    accept kind rest = (.ok false, rest) := by
  cases rest with
  | nil => rfl
  | cons word tail => exact if_neg h

theorem identifier?_of_ne (h : nextKind rest ≠ .identifier) :
    identifier? rest = (.ok none, rest) := by
  cases rest with
  | nil => rfl
  | cons word tail => exact if_neg h

theorem optional_cons {word : Word} (h : word.token.kind = kind)
    {parser : Parser α} {words : List Word} {a : α}
    (hparser : parser words = (.ok a, rest)) :
    optional kind parser (word :: words) = (.ok (some a), rest) := by
  rw [optional, bind_of_ok (accept_cons h words), if_pos rfl,
    bind_of_ok hparser]
  rfl

theorem optional_of_ne (h : nextKind rest ≠ kind) (parser : Parser α) :
    optional kind parser rest = (.ok none, rest) := by
  rw [optional, bind_of_ok (accept_of_ne h), if_neg Bool.false_ne_true]
  rfl

theorem clause_cons {word : Word} (h : word.token.kind = kind)
    (parser : Parser (List α)) (words : List Word) :
    clause kind parser (word :: words) = parser words := by
  rw [clause, bind_of_ok (accept_cons h words), if_pos rfl]

theorem clause_of_ne (h : nextKind rest ≠ kind) (parser : Parser (List α)) :
    clause kind parser rest = (.ok [], rest) := by
  rw [clause, bind_of_ok (accept_of_ne h), if_neg Bool.false_ne_true]
  rfl

theorem separated_of_ne {separator : TokenKind} {entry : List α → Parser α}
    {before : List α} {words : List Word} {a : α}
    (hentry : entry before words = (.ok a, rest))
    (h : nextKind rest ≠ separator) :
    separated separator entry before words = (.ok (before ++ [a]), rest) := by
  rw [separated, hentry]
  simp only [accept_of_ne h]

theorem separated_cons {separator : TokenKind} {entry : List α → Parser α}
    {before : List α} {words : List Word} {word : Word} {a : α}
    (hentry : entry before words = (.ok a, word :: rest))
    (h : word.token.kind = separator) (hlength : rest.length < words.length) :
    separated separator entry before words =
      separated separator entry (before ++ [a]) rest := by
  rw [separated, hentry]
  simp only [accept_cons h, if_pos hlength]

end Parser

/-! ## Lists of entries -/

/-- A list is read entry by entry when every entry is read in front of a
separator and in front of what comes after the list. -/
theorem readsAs_separated {α : Type} {between : String} {word : Word}
    (hbetween : ∀ cs words, Spells cs words →
      Continues (between.toList ++ cs) (word :: words))
    {entry : List α → Parser α} {text : α → String} {next : List Word → Prop}
    (hnext : ∀ rest, next rest → nextKind rest ≠ word.token.kind)
    {xs : List α} (hne : xs ≠ []) {start : List α}
    (h : ∀ before x after, xs = before ++ x :: after →
      ReadsAs (entry (start ++ before)) (text x).toList x fun rest =>
        next rest ∨ ∃ tail, rest = word :: tail) :
    ReadsAs (separated word.token.kind entry start)
      (Text.join between (xs.map text)).toList
      (start ++ xs) next := by
  induction xs generalizing start with
  | nil => exact absurd rfl hne
  | cons x xs ih =>
      obtain ⟨words, hspells, hentry⟩ := h [] x xs rfl
      rw [List.append_nil] at hentry
      cases xs with
      | nil =>
          refine ⟨words, hspells, fun rest hrest => ?_⟩
          exact separated_of_ne (hentry rest (Or.inl hrest)) (hnext rest hrest)
      | cons y ys =>
          have htail : ReadsAs (separated word.token.kind entry (start ++ [x]))
              (Text.join between ((y :: ys).map text)).toList
                (start ++ [x] ++ y :: ys) next := by
            refine ih (by simp) fun before z after hsplit => ?_
            have hz := h (x :: before) z after (by rw [hsplit]; rfl)
            simpa using hz
          obtain ⟨words', hspells', hlist⟩ := htail
          refine ⟨words ++ word :: words', ?_, fun rest hrest => ?_⟩
          · have hjoined := hspells.append (hbetween _ _ hspells')
            simpa [Text.join] using hjoined
          · rw [List.append_assoc, List.cons_append,
              separated_cons (hentry _ (Or.inr ⟨_, rfl⟩)) rfl (by simp; omega),
              hlist rest hrest, List.append_assoc]
            rfl

end ReportQuery
