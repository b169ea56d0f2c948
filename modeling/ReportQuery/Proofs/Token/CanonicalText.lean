import ReportQuery.Proofs.Statement.Blanks
import ReportQuery.Proofs.Text.Joined

/-!
# Canonical texts

The canonical text of a text has its tokens without the blanks, one space
between them. A quoted text stands between double quotes, whatever its quotes
were, and every other token is spelled as it was. Unless a token is illegal,
each of them is read as the same token again in its new place. An illegal one
need not be: a quoted text that is not closed is spelled without its quote.
-/

namespace ReportQuery

namespace Token

/-- The text of a token: between double quotes when it is quoted, its literal
otherwise. -/
def spelling (token : Token) : String :=
  if token.kind = .quoted then quoteText token.literal else token.literal

/-- The blank of one space. -/
def space : Token := ⟨.blank, " "⟩

/-- A token is read again from its text, in front of all that can follow a
word. -/
structure ReadsBack (token : Token) : Prop where
  starts : ∃ c tail, token.spelling.toList = c :: tail ∧ isSpace c = false
  next : ∀ rest, Breaks rest →
    Lexeme.next (token.spelling.toList ++ rest) =
    (⟨token, token.spelling.toList⟩, rest)

end Token

/-- The tokens of a text without the blanks, one space between them. -/
def canonicalText (s : String) : String :=
  Text.join " " ((Token.withoutBlanks (Token.ofText s)).map Token.spelling)

/-! ## One token -/

namespace Lexeme

variable {c : Char} {cs rest : List Char} {kind : TokenKind}

theorem readsBack_quoted (s : String) : Token.ReadsBack ⟨.quoted, s⟩ := by
  have hspelling : Token.spelling ⟨.quoted, s⟩ = quoteText s := if_pos rfl
  constructor
  · rw [hspelling]
    exact (spells_quoteText s).starts
  · intro rest _
    rw [hspelling]
    exact next_quoteText s rest

/-- What is not quoted is spelled with the characters that it was read from. -/
theorem readsBack_plain (hkind : kind ≠ .quoted)
    (hspace : Token.isSpace c = false)
    (hnext : ∀ rest, Breaks rest →
      nextFrom c (cs ++ rest) = (plain kind (c :: cs), rest)) :
    (plain kind (c :: cs)).token.ReadsBack := by
  have hspelling : (plain kind (c :: cs)).token.spelling =
      String.ofList (c :: cs) := if_neg hkind
  have hchars : (plain kind (c :: cs)).token.spelling.toList = c :: cs := by
    rw [hspelling, String.toList_ofList]
  constructor
  · exact ⟨c, cs, hchars, hspace⟩
  · intro rest hrest
    rw [hchars]
    exact hnext rest hrest

theorem readsBack_run {kindOf : List Char → TokenKind} {p : Char → Bool}
    (hnext : ∀ tail, nextFrom c tail = run kindOf p c tail)
    (hspace : Token.isSpace c = false) (hp : [' ', ',', ')', ']'].any p = false)
    (hkind : ∀ source, kindOf source ≠ .quoted) (cs : List Char) :
    (run kindOf p c cs).1.token.ReadsBack := by
  refine readsBack_plain (hkind _) hspace fun rest hrest => ?_
  rw [hnext]
  exact run_append kindOf c (fun d => List.mem_takeWhile_imp)
    (hrest.takeWhile_eq_nil hp)

/-- No break goes on with a symbol in front of it. -/
theorem symbol?_take_append {n : Nat} (h : symbol? cs = some (kind, n))
    (hrest : Breaks rest) :
    symbol? (cs.take n ++ rest) = some (kind, n) := by
  unfold symbol? at h
  split at h <;> cases h
  all_goals
    cases rest with
    | nil => rfl
    | cons d tail => rcases hrest with rfl | rfl | rfl | rfl <;> rfl

theorem readsBack_symbol (hnext : ∀ tail, nextFrom c tail = symbol (c :: tail))
    (hspace : Token.isSpace c = false)
    (hlegal : (symbol (c :: cs)).1.token.kind ≠ .illegal) :
    (symbol (c :: cs)).1.token.ReadsBack := by
  cases hsymbol : symbol? (c :: cs) with
  | none => exact absurd (by rw [symbol, hsymbol]; rfl) hlegal
  | some found =>
      obtain ⟨kind, n⟩ := found
      obtain ⟨hpos, hle⟩ := symbol?_bounds hsymbol
      obtain ⟨m, rfl⟩ : ∃ m, n = m + 1 := ⟨n - 1, by omega⟩
      have htoken : (symbol (c :: cs)).1 = plain kind (c :: cs.take m) := by
        rw [symbol, hsymbol]
        rfl
      have hkind : kind ≠ .quoted := by
        rintro rfl
        exact symbol?_not_mem hsymbol (by simp)
      rw [htoken]
      refine readsBack_plain hkind hspace fun rest hrest => ?_
      have hlength : (c :: cs.take m).length = m + 1 := by
        rw [List.length_cons] at hle ⊢
        rw [List.length_take_of_le (by omega)]
      rw [hnext, ← List.cons_append, symbol, ← List.take_succ_cons,
        symbol?_take_append hsymbol hrest, List.take_succ_cons]
      simp only [← hlength, List.take_left, List.drop_left]

/-- What a step reads is read again from its text, unless it is illegal or a
blank. -/
theorem readsBack_nextFrom (hlegal : (nextFrom c cs).1.token.kind ≠ .illegal)
    (hblank : (nextFrom c cs).1.token.kind ≠ .blank) :
    (nextFrom c cs).1.token.ReadsBack := by
  have hspace : Token.isSpace c = false := by
    rwa [Ne, kind_eq_blank_iff, Bool.not_eq_true] at hblank
  rcases nextFrom_cases c with
    ⟨-, hnext⟩ | ⟨hisSpace, -⟩ | ⟨-, hnext⟩ | ⟨-, hnext⟩ | hnext
  · rw [hnext, quoted] at hlegal ⊢
    cases hclosed : (quotedPart c cs).closed with
    | false => simp [hclosed] at hlegal
    | true => simpa [hclosed] using readsBack_quoted _
  · exact absurd hisSpace (by simp [hspace])
  · rw [hnext]
    exact readsBack_run hnext hspace (by decide) (wordKind_ne (by decide)) cs
  · rw [hnext]
    exact readsBack_run hnext hspace (by decide) (numberKind_ne (by decide)) cs
  · rw [hnext] at hlegal ⊢
    exact readsBack_symbol hnext hspace hlegal

end Lexeme

namespace Token

/-! ## All tokens of a text -/

theorem readsBack_of_mem_withoutBlanks {s : String} {token : Token}
    (hlegal : ∀ token ∈ ofText s, token.kind ≠ .illegal)
    (hmem : token ∈ withoutBlanks (ofText s)) : token.ReadsBack := by
  obtain ⟨htoken, hblank⟩ := List.mem_filter.mp hmem
  have hkind := hlegal token htoken
  obtain ⟨lexeme, hlexeme, rfl⟩ := List.mem_map.mp htoken
  obtain ⟨c, tail, rfl⟩ := Lexeme.exists_nextFrom_of_mem_split hlexeme
  exact Lexeme.readsBack_nextFrom hkind (by simpa using hblank)

theorem ReadsBack.split_append {token : Token} (h : token.ReadsBack)
    {rest : List Char} (hrest : Breaks rest) :
    Lexeme.split (token.spelling.toList ++ rest) =
      ⟨token, token.spelling.toList⟩ :: Lexeme.split rest := by
  obtain ⟨c, tail, hchars, -⟩ := h.starts
  have hnext := h.next rest hrest
  rw [hchars, List.cons_append] at hnext ⊢
  rw [Lexeme.split_cons, show Lexeme.nextFrom c _ = _ from hnext]

/-- A space in front of a token is a blank of its own. -/
theorem ReadsBack.split_space {token : Token} (h : token.ReadsBack)
    {cs : List Char} (hstart : token.spelling.toList <+: cs) :
    Lexeme.split (' ' :: cs) =
      Lexeme.plain .blank [' '] :: Lexeme.split cs := by
  obtain ⟨c, tail, hchars, hspace⟩ := h.starts
  obtain ⟨more, rfl⟩ := hstart
  rw [hchars, List.cons_append, Lexeme.split_cons, Lexeme.nextFrom_space hspace]

theorem ReadsBack.ne_blank {token : Token} (h : token.ReadsBack) :
    token.kind ≠ .blank := by
  obtain ⟨c, tail, hchars, hspace⟩ := h.starts
  have hnext := h.next [] trivial
  rw [hchars, List.append_nil] at hnext
  have htoken : (Lexeme.nextFrom c tail).1.token = token :=
    congrArg (·.1.token) hnext
  rw [← htoken, Ne, Lexeme.kind_eq_blank_iff, hspace]
  exact Bool.false_ne_true

/-- Tokens that are read back, with single spaces between them, are read as
these tokens and the blanks between them. -/
theorem ofText_join {tokens : List Token}
    (h : ∀ token ∈ tokens, token.ReadsBack) :
    ofText (Text.join " " (tokens.map spelling)) =
      tokens.intersperse space := by
  induction tokens with
  | nil => simp [Text.join, ofText, Lexeme.split]
  | cons token rest ih =>
      rw [List.forall_mem_cons] at h
      obtain ⟨htoken, hrest⟩ := h
      cases rest with
      | nil =>
          have hbreaks : Breaks [] := trivial
          have hsplit := htoken.split_append hbreaks
          rw [List.append_nil, Lexeme.split] at hsplit
          simp [Text.join, ofText, hsplit]
      | cons after rest =>
          let others := (Text.join " " ((after :: rest).map spelling)).toList
          have hchars :
              (Text.join " " ((token :: after :: rest).map spelling)).toList =
              token.spelling.toList ++ ' ' :: others := by
            simp [Text.join_cons_cons, others]
          have hbreaks : Breaks (' ' :: others) := Or.inl rfl
          have hstart : after.spelling.toList <+: others :=
            Text.prefix_drop_join (i := 0) rfl
          have hafter := hrest after List.mem_cons_self
          rw [ofText, hchars, htoken.split_append hbreaks,
            hafter.split_space hstart, List.map_cons, List.map_cons,
            List.intersperse_cons_cons, ← ih hrest]
          rfl

theorem withoutBlanks_intersperse {tokens : List Token}
    (h : ∀ token ∈ tokens, token.kind ≠ .blank) :
    withoutBlanks (tokens.intersperse space) = tokens := by
  induction tokens with
  | nil => rfl
  | cons token rest ih =>
      rw [List.forall_mem_cons] at h
      cases rest with
      | nil => simp [withoutBlanks, h.1]
      | cons after rest =>
          rw [List.intersperse_cons_cons, withoutBlanks,
            List.filter_cons_of_pos (by simpa using h.1),
            List.filter_cons_of_neg (by simp [space])]
          exact congrArg _ (ih h.2)

/-- The canonical text of a text without illegal tokens has the tokens of the
text that are no blanks, and one blank between each two of them. A text between
double quotes is one quoted token in front of any other text, and the other
text is what is left. -/
theorem tokens_of_canonicalText (s : String) :
    ((∀ token ∈ ofText s, token.kind ≠ .illegal) →
      ofText (canonicalText s) = (withoutBlanks (ofText s)).intersperse space ∧
      withoutBlanks (ofText (canonicalText s)) = withoutBlanks (ofText s)) ∧
    ∀ rest : String, Lexeme.next (quoteText s ++ rest).toList =
      (⟨⟨.quoted, s⟩, (quoteText s).toList⟩, rest.toList) := by
  constructor
  · intro hlegal
    have hback : ∀ token ∈ withoutBlanks (ofText s), token.ReadsBack := fun _ =>
      readsBack_of_mem_withoutBlanks hlegal
    have htokens := ofText_join hback
    refine ⟨htokens, ?_⟩
    rw [canonicalText, htokens]
    exact withoutBlanks_intersperse fun token hmem =>
      (hback token hmem).ne_blank
  · intro rest
    rw [String.toList_append]
    exact Lexeme.next_quoteText s rest.toList

/-- Tokens of many kinds with no blank between most of them; the quoted one
holds a double quote and a backslash. -/
def crowdedText : String :=
  "sElect'a\"\\\\b'>=12px.5<>( 3.)not_In\t\\g;\n"

theorem tokens_of_canonicalText_crowdedText :
    (∀ token ∈ ofText crowdedText, token.kind ≠ .illegal) ∧
    canonicalText crowdedText =
      "sElect \"a\\\"\\\\b\" >= 12 px.5 < > ( 3. ) not_In \\g ;" ∧
    withoutBlanks (ofText (canonicalText crowdedText)) = withoutBlanks
      (ofText crowdedText) ∧
    Lexeme.next (quoteText crowdedText ++ "\"").toList =
      (⟨⟨.quoted, crowdedText⟩, (quoteText crowdedText).toList⟩, ['"']) := by
  have hlegal : ∀ token ∈ ofText crowdedText, token.kind ≠ .illegal := by
    decide +kernel
  obtain ⟨hsame, hquoted⟩ := tokens_of_canonicalText crowdedText
  exact ⟨hlegal, by decide +kernel, (hsame hlegal).2, hquoted "\""⟩

/-- A quoted text that is not closed turns into a word. -/
example : ofText "'a" = [⟨.illegal, "a"⟩] ∧
    ofText (canonicalText "'a") = [⟨.identifier, "a"⟩] := by
  decide +kernel

end Token

end ReportQuery
