import ReportQuery.Proofs.Numeral
import ReportQuery.Proofs.Token.Identifier
import ReportQuery.Statement.Printer

/-!
# Spelling words

A text that is written word by word is read as these words again, when what
follows each word cannot be taken for a part of it. In the text of a statement
a word is followed by a space, by a comma, by a closing mark or by the end;
only a list in brackets and the argument of a function stand right after their
opening mark.
-/

namespace ReportQuery

/-- What follows cannot belong to the word before it. -/
def Breaks : List Char → Prop
  | [] => True
  | c :: _ => c = ' ' ∨ c = ',' ∨ c = ')' ∨ c = ']'

/-- The text gives the words, in front of those of any text that can follow. -/
def Reads (cs : List Char) (words : List Word) : Prop :=
  ∀ spaced rest, Breaks rest →
    Word.ofLexemes spaced (Lexeme.split (cs ++ rest)) =
      words ++ Word.ofLexemes false (Lexeme.split rest)

/-- A text that starts with a word gives the words. -/
structure Spells (cs : List Char) (words : List Word) : Prop where
  starts : ∃ c tail, cs = c :: tail ∧ Token.isSpace c = false
  reads : Reads cs words

/-- A text that can follow a word gives the words. -/
structure Continues (cs : List Char) (words : List Word) : Prop where
  breaks : Breaks cs
  reads : Reads cs words

namespace Word

/-- A word that opens no call. -/
def ofToken (kind : TokenKind) (literal : String) : Word :=
  ⟨⟨kind, literal⟩, false⟩

/-- A reserved word as it is written. -/
def ofKeyword (keyword : Keyword) : Word :=
  ofToken (.keyword keyword) keyword.spelling

/-- An identifier. -/
def identifier (name : String) : Word :=
  ofToken .identifier name

/-- The parenthesis that opens a call. -/
def callParen : Word :=
  ⟨⟨.openParen, "("⟩, true⟩

end Word

/-- A character that is a word of its own, whatever follows. -/
structure IsMark (c : Char) (kind : TokenKind) : Prop where
  next : ∀ cs, Lexeme.nextFrom c cs = (Lexeme.plain kind [c], cs)
  ne_blank : kind ≠ .blank
  ne_openParen : kind ≠ .openParen

/-! ## Breaks -/

theorem Breaks.append {cs rest : List Char} (hcs : Breaks cs)
    (hrest : Breaks rest) : Breaks (cs ++ rest) := by
  cases cs with
  | nil => exact hrest
  | cons c tail => exact hcs

/-- A run of characters ends at a break when no break is one of them. -/
theorem Breaks.takeWhile_eq_nil {rest : List Char} (h : Breaks rest)
    {p : Char → Bool} (hp : [' ', ',', ')', ']'].any p = false) :
    rest.takeWhile p = [] := by
  cases rest with
  | nil => rfl
  | cons c tail =>
      have hc : ¬ p c = true :=
        List.any_eq_false.mp hp c (by simpa [Breaks] using h)
      simp [hc]

/-! ## Lexemes -/

namespace Lexeme

theorem split_cons (c : Char) (cs : List Char) :
    split (c :: cs) = (nextFrom c cs).1 :: split (nextFrom c cs).2 := by
  rw [split]

theorem run_append (kind : List Char → TokenKind) {p : Char → Bool} (c : Char)
    {cs rest : List Char} (hcs : ∀ d ∈ cs, p d = true)
    (hrest : rest.takeWhile p = []) :
    run kind p c (cs ++ rest) = (plain (kind (c :: cs)) (c :: cs), rest) := by
  have htake : (cs ++ rest).takeWhile p = cs := by
    rw [List.takeWhile_append_of_pos hcs, hrest, List.append_nil]
  have hdrop : (cs ++ rest).dropWhile p = rest := by
    have hall := List.takeWhile_append_dropWhile (p := p) (l := cs ++ rest)
    rw [htake] at hall
    exact List.append_cancel_left hall
  rw [run, htake, hdrop]

/-- A class of characters without quotes and blanks. -/
theorem not_isQuote_of_class {p : Char → Bool} {c : Char}
    (hp : ['"', '\'', ' ', '\t', '\n', '\r'].any p = false) (hc : p c = true) :
    Token.isQuote c = false ∧ Token.isSpace c = false := by
  have hnot : c ∉ ['"', '\'', ' ', '\t', '\n', '\r'] := fun hmem =>
    List.any_eq_false.mp hp c hmem hc
  simp only [List.mem_cons, List.not_mem_nil, or_false, not_or] at hnot
  simp [Token.isQuote, Token.isSpace, hnot]

theorem not_isLetter_of_isDigit {c : Char} (h : c.isDigit = true) :
    Text.isLetter c = false := by
  rw [Bool.eq_false_iff]
  intro hletter
  have hdigit : c.toNat ≤ 57 := (Char.isDigit_iff_toNat.mp h).2
  have hbeyond : 65 ≤ c.toNat := by
    rcases (Bool.or_eq_true _ _).mp hletter with hupper | hlower
    · obtain ⟨hle, -⟩ := of_decide_eq_true hupper
      exact UInt32.le_iff_toNat_le.mp hle
    · obtain ⟨hle, -⟩ := (Bool.and_eq_true _ _).mp hlower
      have hsmall : 97 ≤ c.toNat :=
        UInt32.le_iff_toNat_le.mp (of_decide_eq_true hle)
      omega
  omega

theorem nextFrom_of_isLetter {c : Char} (h : Text.isLetter c = true)
    (cs : List Char) : nextFrom c cs = run wordKind Token.isWordChar c cs := by
  obtain ⟨hquote, hspace⟩ := not_isQuote_of_class (by decide) h
  simp [nextFrom, hquote, hspace, h]

theorem nextFrom_of_isDigit {c : Char} (h : c.isDigit = true) (cs : List Char) :
    nextFrom c cs = run numberKind Token.isNumberChar c cs := by
  obtain ⟨hquote, hspace⟩ :=
    not_isQuote_of_class (p := Char.isDigit) (by decide) h
  simp [nextFrom, hquote, hspace, h, not_isLetter_of_isDigit h]

theorem quotedPart_escapeQuoted (cs rest : List Char) :
    quotedPart '"' (escapeQuoted cs ++ '"' :: rest) =
      ⟨cs, escapeQuoted cs ++ ['"'], rest, true⟩ := by
  induction cs with
  | nil => simp [escapeQuoted, quotedPart]
  | cons c cs ih =>
      by_cases hescaped : c = '"' ∨ c = '\\'
      · rw [escapeQuoted, if_pos hescaped, List.cons_append, List.cons_append,
          quotedPart, ih]
        rfl
      · rw [not_or] at hescaped
        rw [escapeQuoted, if_neg (not_or.mpr hescaped),
          List.cons_append, quotedPart, if_neg hescaped.1,
          if_neg hescaped.2, ih]
        · rfl
        · rintro d tail rfl
          exact absurd rfl hescaped.2

/-- A quoted text is read up to its closing quote, whatever follows. -/
theorem next_quoteText (s : String) (rest : List Char) :
    next ((quoteText s).toList ++ rest) =
      (⟨⟨.quoted, s⟩, (quoteText s).toList⟩, rest) := by
  rw [quoteText, String.toList_ofList, List.cons_append, List.cons_append]
  change quoted '"' _ = _
  rw [List.append_assoc, List.singleton_append, quoted, quotedPart_escapeQuoted]
  simp

/-- One space in front of a word is a blank of its own. -/
theorem nextFrom_space {c : Char} (h : Token.isSpace c = false)
    (cs : List Char) :
    nextFrom ' ' (c :: cs) = (plain .blank [' '], c :: cs) := by
  change run (fun _ => .blank) Token.isSpace ' ' _ = _
  simp [run, h]

end Lexeme

namespace Word

theorem ofLexemes_cons {lexeme : Lexeme} (hblank : lexeme.token.kind ≠ .blank)
    (hparen : lexeme.token.kind ≠ .openParen) (spaced : Bool)
    (rest : List Lexeme) :
    ofLexemes spaced (lexeme :: rest) =
      ⟨lexeme.token, false⟩ :: ofLexemes false rest := by
  simp [ofLexemes, hblank, hparen]

end Word

/-! ## Marks -/

theorem isMark_comma : IsMark ',' .comma := ⟨fun _ => rfl, by simp, by simp⟩

theorem isMark_asterisk :
    IsMark '*' .asterisk := ⟨fun _ => rfl, by simp, by simp⟩

theorem isMark_closeParen :
    IsMark ')' .closeParen := ⟨fun _ => rfl, by simp, by simp⟩

theorem isMark_openBracket :
    IsMark '[' .openBracket := ⟨fun _ => rfl, by simp, by simp⟩

theorem isMark_closeBracket :
    IsMark ']' .closeBracket := ⟨fun _ => rfl, by simp, by simp⟩

theorem IsMark.ofLexemes {c : Char} {kind : TokenKind} (h : IsMark c kind)
    (spaced : Bool) (rest : List Char) :
    Word.ofLexemes spaced (Lexeme.split (c :: rest)) =
      Word.ofToken kind (String.ofList [c]) :: Word.ofLexemes false
        (Lexeme.split rest) := by
  rw [Lexeme.split_cons, h.next]
  exact Word.ofLexemes_cons h.ne_blank h.ne_openParen spaced _

/-- Whether a blank came before a break does not matter. -/
theorem Breaks.ofLexemes {rest : List Char} (h : Breaks rest) (spaced : Bool) :
    Word.ofLexemes spaced (Lexeme.split rest) =
      Word.ofLexemes false (Lexeme.split rest) := by
  cases rest with
  | nil => simp [Lexeme.split, Word.ofLexemes]
  | cons c tail =>
      rcases h with rfl | rfl | rfl | rfl
      · rw [Lexeme.split_cons]
        rfl
      · rw [isMark_comma.ofLexemes, isMark_comma.ofLexemes]
      · rw [isMark_closeParen.ofLexemes, isMark_closeParen.ofLexemes]
      · rw [isMark_closeBracket.ofLexemes, isMark_closeBracket.ofLexemes]

/-! ## One text after another -/

theorem Reads.append {cs cs' : List Char} {words words' : List Word}
    (h : Reads cs words) (hbreaks : Breaks cs') (h' : Reads cs' words') :
    Reads (cs ++ cs') (words ++ words') := by
  intro spaced rest hrest
  rw [List.append_assoc, h spaced _ (hbreaks.append hrest), h' false rest hrest,
    List.append_assoc]

theorem Continues.nil : Continues [] [] :=
  ⟨trivial, fun spaced _ hrest => hrest.ofLexemes spaced⟩

theorem Spells.append {cs cs' : List Char} {words words' : List Word}
    (h : Spells cs words) (h' : Continues cs' words') :
    Spells (cs ++ cs') (words ++ words') := by
  obtain ⟨c, tail, rfl, hspace⟩ := h.starts
  exact ⟨⟨c, tail ++ cs', rfl, hspace⟩, h.reads.append h'.breaks h'.reads⟩

theorem Continues.append {cs cs' : List Char} {words words' : List Word}
    (h : Continues cs words) (h' : Continues cs' words') :
    Continues (cs ++ cs') (words ++ words') :=
  ⟨h.breaks.append h'.breaks, h.reads.append h'.breaks h'.reads⟩

/-- A space before a word carries no meaning. -/
theorem Spells.spaced {cs : List Char} {words : List Word}
    (h : Spells cs words) : Continues (' ' :: cs) words := by
  refine ⟨Or.inl rfl, ?_⟩
  intro spaced rest hrest
  obtain ⟨c, tail, rfl, hspace⟩ := h.starts
  rw [List.cons_append, Lexeme.split_cons, List.cons_append,
    Lexeme.nextFrom_space hspace]
  exact h.reads true rest hrest

theorem IsMark.reads {c : Char} {kind : TokenKind} (hmark : IsMark c kind)
    {cs : List Char} {words : List Word} (h : Reads cs words) :
    Reads (c :: cs) (Word.ofToken kind (String.ofList [c]) :: words) := by
  intro spaced rest hrest
  rw [List.cons_append, hmark.ofLexemes, h false rest hrest, List.cons_append]

theorem continues_closeParen : Continues [')'] [Word.ofToken .closeParen ")"] :=
  ⟨Or.inr (Or.inr (Or.inl rfl)), isMark_closeParen.reads Continues.nil.reads⟩

theorem continues_closeBracket : Continues [']']
    [Word.ofToken .closeBracket "]"] :=
  ⟨Or.inr (Or.inr (Or.inr rfl)), isMark_closeBracket.reads Continues.nil.reads⟩

/-- A mark alone. -/
theorem IsMark.spells {c : Char} {kind : TokenKind} (hmark : IsMark c kind)
    (hspace : Token.isSpace c = false) :
    Spells [c] [Word.ofToken kind (String.ofList [c])] :=
  ⟨⟨c, [], rfl, hspace⟩, hmark.reads Continues.nil.reads⟩

/-! ## Single words -/

theorem ofLexemes_run {kindOf : List Char → TokenKind}
    {p : Char → Bool} {c : Char} {cs rest : List Char}
    (hnext : ∀ tail, Lexeme.nextFrom c tail = Lexeme.run kindOf p c tail)
    (hcs : ∀ d ∈ cs, p d = true) (hrest : rest.takeWhile p = [])
    (hblank : kindOf (c :: cs) ≠ .blank)
    (hparen : kindOf (c :: cs) ≠ .openParen) (spaced : Bool) :
    Word.ofLexemes spaced (Lexeme.split (c :: cs ++ rest)) =
      Word.ofToken (kindOf (c :: cs)) (String.ofList (c :: cs)) ::
        Word.ofLexemes false (Lexeme.split rest) := by
  rw [List.cons_append, Lexeme.split_cons, hnext,
    Lexeme.run_append kindOf c hcs hrest]
  exact Word.ofLexemes_cons hblank hparen spaced _

theorem IsWord.spells {kind : TokenKind} {s : String} (h : IsWord kind s)
    (hblank : kind ≠ .blank) (hparen : kind ≠ .openParen) :
    Spells s.toList [Word.ofToken kind s] := by
  obtain ⟨c, cs, hchars, hletter, htail, rfl⟩ := h
  rw [← String.ofList_toList (s := s), hchars, String.toList_ofList]
  constructor
  · exact ⟨c, cs, rfl, (Lexeme.not_isQuote_of_class (by decide) hletter).2⟩
  · intro spaced rest hrest
    exact ofLexemes_run (Lexeme.nextFrom_of_isLetter hletter) htail
      (hrest.takeWhile_eq_nil (by decide)) hblank hparen spaced

theorem IsNumber.spells {kind : TokenKind} {s : String} (h : IsNumber kind s)
    (hblank : kind ≠ .blank) (hparen : kind ≠ .openParen) :
    Spells s.toList [Word.ofToken kind s] := by
  obtain ⟨c, cs, hchars, hdigit, htail, rfl⟩ := h
  rw [← String.ofList_toList (s := s), hchars, String.toList_ofList]
  constructor
  · exact ⟨c, cs, rfl,
      (Lexeme.not_isQuote_of_class (p := Char.isDigit) (by decide) hdigit).2⟩
  · intro spaced rest hrest
    exact ofLexemes_run (Lexeme.nextFrom_of_isDigit hdigit) htail
      (hrest.takeWhile_eq_nil (by decide)) hblank hparen spaced

theorem IsIdentifier.spells {name : String} (h : IsIdentifier name) :
    Spells name.toList [Word.identifier name] :=
  h.isWord.spells (by simp) (by simp)

/-- A function call: the parenthesis right after the name opens it. -/
theorem IsIdentifier.spells_call {name : String} (h : IsIdentifier name)
    {cs : List Char} {words : List Word} (hcs : Reads cs words) :
    Spells (name.toList ++ '(' :: cs)
      (Word.identifier name :: Word.callParen :: words) := by
  obtain ⟨c, tail, hchars, hletter, htail, hkind⟩ := h.isWord
  constructor
  · rw [hchars]
    exact ⟨c, tail ++ '(' :: cs, rfl,
      (Lexeme.not_isQuote_of_class (by decide) hletter).2⟩
  · intro spaced rest hrest
    have hname : Word.identifier name =
        Word.ofToken (Lexeme.wordKind (c :: tail))
          (String.ofList (c :: tail)) := by
      rw [hkind, ← hchars, String.ofList_toList]
      rfl
    have hopen : c :: tail ++ '(' :: cs ++ rest =
        c :: tail ++ '(' :: (cs ++ rest) := by simp
    have hends : ('(' :: (cs ++ rest)).takeWhile Token.isWordChar = [] :=
      List.takeWhile_cons_of_neg (by decide)
    rw [hchars, hopen, ofLexemes_run (Lexeme.nextFrom_of_isLetter hletter) htail
      hends (by simp [hkind]) (by simp [hkind]), ← hname, Lexeme.split_cons]
    change _ :: Word.callParen :: Word.ofLexemes false
      (Lexeme.split (cs ++ rest)) = _
    rw [hcs false rest hrest]
    rfl

/-- A parenthesis after a blank opens no call. -/
theorem Spells.parenthesized {cs : List Char} {words : List Word}
    (h : Spells cs words) :
    Continues (' ' :: '(' :: cs) (Word.ofToken .openParen "(" :: words) := by
  refine ⟨Or.inl rfl, ?_⟩
  intro spaced rest hrest
  rw [List.cons_append, Lexeme.split_cons]
  change Word.ofLexemes true (Lexeme.split ('(' :: (cs ++ rest))) = _
  rw [Lexeme.split_cons]
  change _ :: Word.ofLexemes false (Lexeme.split (cs ++ rest)) = _
  rw [h.reads false rest hrest]
  rfl

theorem spells_quoteText (s : String) :
    Spells (quoteText s).toList [Word.ofToken .quoted s] := by
  have hchars : (quoteText s).toList =
      '"' :: (escapeQuoted s.toList ++ ['"']) := by
    rw [quoteText, String.toList_ofList, List.cons_append]
  refine ⟨⟨'"', _, hchars, by decide⟩, ?_⟩
  intro spaced rest _
  have hnext := Lexeme.next_quoteText s rest
  rw [hchars, List.cons_append] at hnext ⊢
  rw [Lexeme.split_cons, show Lexeme.nextFrom '"' _ = _ from hnext]
  exact Word.ofLexemes_cons (by simp) (by simp) spaced _

theorem spells_keyword (keyword : Keyword) :
    Spells keyword.spelling.toList [Word.ofKeyword keyword] := by
  have hword : IsWord (.keyword keyword) keyword.spelling := by
    cases keyword <;>
      exact ⟨_, _, rfl, by decide, List.all_eq_true.mp (by decide), by decide⟩
  exact hword.spells (by simp) (by simp)

theorem reads_operator {c : Char} {cs : List Char} {op : Operator}
    (h : ∀ rest, Breaks rest →
      Lexeme.nextFrom c (cs ++ rest) =
        (Lexeme.plain (.operator op) (c :: cs), rest)) :
    Reads (c :: cs) [Word.ofToken (.operator op)
      (String.ofList (c :: cs))] := by
  intro spaced rest hrest
  rw [List.cons_append, Lexeme.split_cons, h rest hrest]
  exact Word.ofLexemes_cons (by simp [Lexeme.plain])
    (by simp [Lexeme.plain]) spaced _

theorem spells_operator (op : Operator) :
    Spells op.spelling.toList [Word.ofToken (.operator op) op.spelling] := by
  have hword : op ∈ TokenKind.operatorWords →
      IsWord (.operator op) op.spelling := by
    cases op <;> first
      | exact fun _ =>
          ⟨_, _, rfl, by decide, List.all_eq_true.mp (by decide), by decide⟩
      | exact fun h => absurd h (by decide)
  by_cases hspelled : op ∈ TokenKind.operatorWords
  · exact (hword hspelled).spells (by simp) (by simp)
  · constructor
    · cases op <;> exact ⟨_, _, rfl, by decide⟩
    · cases op with
      | equal => exact reads_operator fun rest _ => rfl
      | different => exact reads_operator fun rest _ => rfl
      | greaterOrEqual => exact reads_operator fun rest _ => rfl
      | lessOrEqual => exact reads_operator fun rest _ => rfl
      | greater =>
          refine reads_operator fun rest hrest => ?_
          cases rest with
          | nil => rfl
          | cons c tail => rcases hrest with rfl | rfl | rfl | rfl <;> rfl
      | less =>
          refine reads_operator fun rest hrest => ?_
          cases rest with
          | nil => rfl
          | cons c tail => rcases hrest with rfl | rfl | rfl | rfl <;> rfl
      | _ => exact absurd (by decide) hspelled

/-! ## Words between others -/

theorem Spells.comma {cs : List Char} {words : List Word}
    (h : Spells cs words) :
    Continues (", ".toList ++ cs) (Word.ofToken .comma "," :: words) :=
  ⟨Or.inr (Or.inl rfl), isMark_comma.reads h.spaced.reads⟩

theorem Spells.narrowComma {cs : List Char} {words : List Word}
    (h : Spells cs words) :
    Continues (",".toList ++ cs) (Word.ofToken .comma "," :: words) :=
  ⟨Or.inr (Or.inl rfl), isMark_comma.reads h.reads⟩

/-- A reserved word in front of a text. -/
theorem Spells.after_keyword {cs : List Char} {words : List Word}
    (h : Spells cs words) (keyword : Keyword) :
    Spells (keyword.spelling.toList ++ ' ' :: cs)
      (Word.ofKeyword keyword :: words) :=
  (spells_keyword keyword).append h.spaced

end ReportQuery
