import Mathlib.Data.List.TakeWhile
import ReportQuery.Proofs.Numeral
import ReportQuery.Statement
import ReportQuery.Token.Word

/-!
# Words and numbers of a text

A word that is read as an identifier starts with a letter, goes on with word
characters, and is neither reserved nor divided by a point. In particular it is
not the star. A word with a point and a number keep their spelling as well:
each is read as a token of the same kind again.
-/

namespace ReportQuery

/-- A text that is read as one identifier. -/
structure IsIdentifier (s : String) : Prop where
  letter : ∃ c cs, s.toList = c :: cs ∧ Text.isLetter c = true
  wordChars : ∀ c ∈ s.toList.tail, Token.isWordChar c = true
  kind : Lexeme.wordKind s.toList = .identifier

theorem IsIdentifier.ne_starName {s : String} (h : IsIdentifier s) :
    s ≠ starName := by
  rintro rfl
  obtain ⟨c, cs, hchars, hletter⟩ := h.letter
  have hc : c = '*' := (List.cons.inj hchars).1.symm
  rw [hc] at hletter
  exact absurd hletter (by decide)

/-- A text that is read as one word of a kind. -/
def IsWord (kind : TokenKind) (s : String) : Prop :=
  ∃ c cs, s.toList = c :: cs ∧ Text.isLetter c = true ∧
    (∀ d ∈ cs, Token.isWordChar d = true) ∧ Lexeme.wordKind (c :: cs) = kind

/-- A text that is read as one number of a kind. -/
def IsNumber (kind : TokenKind) (s : String) : Prop :=
  ∃ c cs, s.toList = c :: cs ∧ c.isDigit = true ∧
    (∀ d ∈ cs, Token.isNumberChar d = true) ∧ Lexeme.numberKind (c :: cs) = kind

/-- A text that can stand as a value without quotes. -/
def IsBareValue (s : String) : Prop :=
  ∃ kind : TokenKind, kind.isBareValue = true ∧
    (IsWord kind s ∨ IsNumber kind s)

theorem IsIdentifier.isWord {s : String} (h : IsIdentifier s) :
    IsWord .identifier s := by
  obtain ⟨c, cs, hchars, hletter⟩ := h.letter
  have htail := h.wordChars
  have hkind := h.kind
  rw [hchars] at htail hkind
  exact ⟨c, cs, hchars, hletter, htail, hkind⟩

theorem IsWord.isIdentifier {s : String} (h : IsWord .identifier s) :
    IsIdentifier s := by
  obtain ⟨c, cs, hchars, hletter, htail, hkind⟩ := h
  refine ⟨⟨c, cs, hchars, hletter⟩, ?_, ?_⟩
  · rw [hchars]
    exact htail
  · rw [hchars]
    exact hkind

/-- Digits are a number of their own kind when their value fits a signed
word. -/
theorem isNumber_digits_iff {s : String} {c : Char} {cs : List Char}
    (hchars : s.toList = c :: cs) (hdigit : c.isDigit = true) :
    IsNumber .digits s ↔ ∃ n, Numeral.natural? s.toList = some n ∧
      n < Numeral.signedBound := by
  have hsigned : (Numeral.signedWord? (c :: cs)).isSome = true ↔
      ∃ n, Numeral.natural? (c :: cs) = some n ∧ n < Numeral.signedBound :=
    Numeral.isSome_signedWord?_iff hdigit
  rw [hchars]
  constructor
  · rintro ⟨d, ds, hsame, -, -, hkind⟩
    obtain ⟨rfl, rfl⟩ := List.cons.inj (hchars.symm.trans hsame)
    rw [← hsigned]
    rw [Lexeme.numberKind] at hkind
    split at hkind
    · assumption
    · split at hkind <;> simp at hkind
  · rintro ⟨n, hn, hlt⟩
    refine ⟨c, cs, hchars, hdigit, ?_, ?_⟩
    · intro d hd
      have hall := Numeral.all_isDigit_of_natural? hn d
        (List.mem_cons_of_mem c hd)
      simp [Token.isNumberChar, hall]
    · rw [Lexeme.numberKind, if_pos (hsigned.mpr ⟨n, hn, hlt⟩)]

theorem isNumber_ofNat {n : Nat} (h : n < Numeral.signedBound) :
    IsNumber .digits (Numeral.ofNat n) := by
  have hchars : (Numeral.ofNat n).toList = Nat.toDigits 10 n := Nat.toList_repr
  have hnatural := Numeral.natural?_toDigits n
  rw [← hchars] at hnatural
  cases hcs : (Numeral.ofNat n).toList with
  | nil => simp [hcs, Numeral.natural?] at hnatural
  | cons c cs =>
      have hdigit : c.isDigit = true := by
        apply Numeral.all_isDigit_toDigits n
        rw [← hchars, hcs]
        exact List.mem_cons_self
      exact (isNumber_digits_iff hcs hdigit).mpr ⟨n, hnatural, h⟩

/-- A token whose literal is spelled as its kind, when this is that of a word
or of a number. -/
structure Token.Lexed (token : Token) : Prop where
  word : token.kind = .identifier ∨ token.kind = .dotted →
    IsWord token.kind token.literal
  number : token.kind = .digits ∨ token.kind = .decimal →
    IsNumber token.kind token.literal

/-- A token of another kind. -/
theorem Token.Lexed.of_ne {token : Token}
    (h : token.kind ∉ [.identifier, .dotted, .digits, .decimal]) :
    token.Lexed := by
  simp only [List.mem_cons, List.not_mem_nil, or_false, not_or] at h
  obtain ⟨hidentifier, hdotted, hdigits, hdecimal⟩ := h
  constructor
  · rintro (hkind | hkind)
    · exact absurd hkind hidentifier
    · exact absurd hkind hdotted
  · rintro (hkind | hkind)
    · exact absurd hkind hdigits
    · exact absurd hkind hdecimal

theorem Token.Lexed.isIdentifier {token : Token} (h : token.Lexed)
    (hkind : token.kind = .identifier) : IsIdentifier token.literal := by
  have hword := h.word (Or.inl hkind)
  rw [hkind] at hword
  exact hword.isIdentifier

theorem Token.Lexed.isNumber {token : Token} (h : token.Lexed)
    (hkind : token.kind = .digits) : IsNumber .digits token.literal := by
  have hnumber := h.number (Or.inl hkind)
  rwa [hkind] at hnumber

theorem Token.Lexed.isBareValue {token : Token} (h : token.Lexed)
    (hbare : token.kind.isBareValue = true) : IsBareValue token.literal := by
  have hclass : (token.kind = .identifier ∨ token.kind = .dotted) ∨
      (token.kind = .digits ∨ token.kind = .decimal) := by
    revert hbare
    cases token.kind <;> simp [TokenKind.isBareValue]
  rcases hclass with hword | hnumber
  · exact ⟨token.kind, hbare, Or.inl (h.word hword)⟩
  · exact ⟨token.kind, hbare, Or.inr (h.number hnumber)⟩

namespace Lexeme

/-- A symbol is no blank, no quoted text, no word and no number. -/
theorem symbol?_not_mem {cs : List Char} {kind : TokenKind} {n : Nat}
    (h : symbol? cs = some (kind, n)) :
    kind ∉ [.ending, .blank, .quoted, .identifier, .dotted,
      .digits, .decimal] := by
  unfold symbol? at h
  split at h <;> simp_all <;> (obtain ⟨rfl, -⟩ := h; simp)

/-- A word has a point, is reserved, or is an identifier. -/
theorem wordKind_mem (word : List Char) :
    wordKind word ∈ .dotted :: .identifier :: TokenKind.reserved.map (·.2) := by
  rw [wordKind]
  split
  · simp
  · rw [TokenKind.ofWord?]
    cases hfound : TokenKind.reserved.find? _ with
    | none => simp
    | some entry =>
        have hmem :=
          List.mem_map_of_mem (f := (·.2)) (List.mem_of_find?_eq_some hfound)
        exact List.mem_cons_of_mem _ (List.mem_cons_of_mem _ hmem)

theorem numberKind_mem (number : List Char) :
    numberKind number ∈ [.digits, .decimal, .illegal] := by
  rw [numberKind]
  split
  · simp
  · split <;> simp

theorem wordKind_ne {kind : TokenKind}
    (h : kind ∉ .dotted :: .identifier :: TokenKind.reserved.map (·.2))
    (word : List Char) : wordKind word ≠ kind := by
  rintro rfl
  exact h (wordKind_mem word)

theorem numberKind_ne {kind : TokenKind}
    (h : kind ∉ [.digits, .decimal, .illegal]) (number : List Char) :
    numberKind number ≠ kind := by
  rintro rfl
  exact h (numberKind_mem number)

theorem kind_quoted_mem (quote : Char) (cs : List Char) :
    (quoted quote cs).1.token.kind ∈ [.quoted, .illegal] := by
  rw [quoted]
  dsimp only
  split <;> simp

theorem kind_quoted_ne {kind : TokenKind} (h : kind ∉ [.quoted, .illegal])
    (quote : Char) (cs : List Char) :
    (quoted quote cs).1.token.kind ≠ kind := by
  rintro rfl
  exact h (kind_quoted_mem quote cs)

theorem kind_symbol_not_mem (cs : List Char) :
    (symbol cs).1.token.kind ∉
      [.ending, .blank, .quoted, .identifier, .dotted, .digits, .decimal] := by
  rw [symbol]
  split
  · next hsymbol => exact symbol?_not_mem hsymbol
  · simp [plain]

/-- The first character tells how a lexeme goes on. -/
theorem nextFrom_cases (c : Char) :
    (Token.isQuote c = true ∧ ∀ cs, nextFrom c cs = quoted c cs) ∨
    (Token.isSpace c = true ∧
      ∀ cs, nextFrom c cs = run (fun _ => .blank) Token.isSpace c cs) ∨
    (Text.isLetter c = true ∧
      ∀ cs, nextFrom c cs = run wordKind Token.isWordChar c cs) ∨
    (c.isDigit = true ∧ ∀ cs,
      nextFrom c cs = run numberKind Token.isNumberChar c cs) ∨
    ∀ cs, nextFrom c cs = symbol (c :: cs) := by
  by_cases hquote : Token.isQuote c = true
  · exact .inl ⟨hquote, fun cs => if_pos hquote⟩
  by_cases hspace : Token.isSpace c = true
  · exact .inr
      (.inl ⟨hspace, fun cs => by rw [nextFrom, if_neg hquote, if_pos hspace]⟩)
  by_cases hletter : Text.isLetter c = true
  · refine .inr (.inr (.inl ⟨hletter, fun cs => ?_⟩))
    rw [nextFrom, if_neg hquote, if_neg hspace, if_pos hletter]
  by_cases hdigit : c.isDigit = true
  · refine .inr (.inr (.inr (.inl ⟨hdigit, fun cs => ?_⟩)))
    rw [nextFrom, if_neg hquote, if_neg hspace, if_neg hletter, if_pos hdigit]
  · refine .inr (.inr (.inr (.inr fun cs => ?_)))
    rw [nextFrom, if_neg hquote, if_neg hspace, if_neg hletter, if_neg hdigit]

/-- What a step reads as a word or as a number is spelled as one. -/
theorem lexed_nextFrom (c : Char) (cs : List Char) :
    (nextFrom c cs).1.token.Lexed := by
  rcases nextFrom_cases c with
    ⟨-, hnext⟩ | ⟨-, hnext⟩ | ⟨hletter, hnext⟩ | ⟨hdigit, hnext⟩ | hnext <;>
      rw [hnext]
  · have hkinds : ∀ kind ∈ [TokenKind.quoted, .illegal],
        kind ∉ [.identifier, .dotted, .digits, .decimal] := by
      decide
    exact Token.Lexed.of_ne (hkinds _ (kind_quoted_mem c cs))
  · exact Token.Lexed.of_ne (by simp [run, plain])
  · refine ⟨fun _ => ⟨c, cs.takeWhile Token.isWordChar, by simp [run, plain],
      hletter, fun d => List.mem_takeWhile_imp, rfl⟩, ?_⟩
    rintro (hkind | hkind)
    · exact absurd hkind (wordKind_ne (by decide) _)
    · exact absurd hkind (wordKind_ne (by decide) _)
  · refine ⟨?_,
      fun _ => ⟨c, cs.takeWhile Token.isNumberChar, by simp [run, plain],
        hdigit, fun d => List.mem_takeWhile_imp, rfl⟩⟩
    rintro (hkind | hkind)
    · exact absurd hkind (numberKind_ne (by decide) _)
    · exact absurd hkind (numberKind_ne (by decide) _)
  · exact Token.Lexed.of_ne fun hmem =>
      kind_symbol_not_mem _ (List.mem_append_right [_, _, _] hmem)

/-- The lexemes of a text are those of single steps. -/
theorem exists_nextFrom_of_mem_split {cs : List Char} {lexeme : Lexeme}
    (h : lexeme ∈ split cs) : ∃ c tail, lexeme = (nextFrom c tail).1 := by
  fun_induction split cs with
  | case1 => simp at h
  | case2 c cs ih =>
      rcases List.mem_cons.mp h with rfl | hrest
      · exact ⟨c, cs, rfl⟩
      · exact ih hrest

theorem lexed_of_mem_split {cs : List Char} {lexeme : Lexeme}
    (hmem : lexeme ∈ split cs) : lexeme.token.Lexed := by
  obtain ⟨c, tail, rfl⟩ := exists_nextFrom_of_mem_split hmem
  exact lexed_nextFrom c tail

theorem length_split_le (cs : List Char) : (split cs).length ≤ cs.length := by
  fun_induction split cs with
  | case1 => exact Nat.le_refl 0
  | case2 c cs ih =>
      have hshorter := length_nextFrom_lt c cs
      rw [List.length_cons]
      omega

end Lexeme

namespace Word

/-- The words of lexemes carry the tokens of lexemes. -/
theorem exists_lexeme_of_mem_ofLexemes {spaced : Bool} {lexemes : List Lexeme}
    {word : Word} (h : word ∈ ofLexemes spaced lexemes) :
    ∃ lexeme ∈ lexemes, lexeme.token = word.token := by
  induction lexemes generalizing spaced with
  | nil => simp [ofLexemes] at h
  | cons lexeme rest ih =>
      simp only [ofLexemes] at h
      split at h
      · obtain ⟨found, hmem, htoken⟩ := ih h
        exact ⟨found, by simp [hmem], htoken⟩
      · rcases List.mem_cons.mp h with rfl | hrest
        · exact ⟨lexeme, by simp, rfl⟩
        · obtain ⟨found, hmem, htoken⟩ := ih hrest
          exact ⟨found, by simp [hmem], htoken⟩

theorem lexed_of_mem_ofText {text : String} {word : Word}
    (h : word ∈ ofText text) : word.token.Lexed := by
  obtain ⟨lexeme, hmem, htoken⟩ := exists_lexeme_of_mem_ofLexemes h
  rw [← htoken]
  exact Lexeme.lexed_of_mem_split hmem

theorem length_ofLexemes_le (spaced : Bool) (lexemes : List Lexeme) :
    (ofLexemes spaced lexemes).length ≤ lexemes.length := by
  induction lexemes generalizing spaced with
  | nil => simp [ofLexemes]
  | cons lexeme rest ih =>
      rw [ofLexemes]
      split
      · exact (ih true).trans (Nat.le_succ _)
      · exact Nat.succ_le_succ (ih false)

/-- A text has no more words than characters. -/
theorem length_ofText_le (text : String) :
    (ofText text).length ≤ text.length := by
  calc (ofText text).length ≤ (Lexeme.split text.toList).length :=
    length_ofLexemes_le _ _
    _ ≤ text.toList.length := Lexeme.length_split_le _
    _ = text.length := String.length_toList

end Word

end ReportQuery
