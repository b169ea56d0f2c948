import ReportQuery.Proofs.Statement.Gives
import ReportQuery.Statement.Grammar

/-!
# The tokens that a value is read from

A parser that gives a value takes some words from the front of its list. The
rules below follow the combinators and say which tokens these are, so that a
statement can be traced back to the tokens that its clauses were written in.
-/

namespace ReportQuery

/-- Entries with a separator between neighbours, each of them read from its own
tokens. -/
inductive Listed {α : Type} (separator : TokenKind)
    (P : α → List Token → Prop) :
    List α → List Token → Prop
  | last {a : α} {tokens : List Token} (h : P a tokens) :
      Listed separator P [a] tokens
  | more {a : α} {tokens rest : List Token} {literal : String} {as : List α}
      (h : P a tokens) (hrest : Listed separator P as rest) :
      Listed separator P (a :: as) (tokens ++ ⟨separator, literal⟩ :: rest)

/-- A value behind the token that announces it, or no value and no token. -/
inductive Announced {α : Type} (kind : TokenKind) (P : α → List Token → Prop) :
    Option α → List Token → Prop
  | absent : Announced kind P none []
  | present {a : α} {tokens : List Token} (literal : String) (h : P a tokens) :
      Announced kind P (some a) (⟨kind, literal⟩ :: tokens)

/-- The entries of a clause behind the token that opens it, or no entry and no
token. -/
inductive Opened {α : Type} (kind : TokenKind)
    (P : List α → List Token → Prop) :
    List α → List Token → Prop
  | absent : Opened kind P [] []
  | present {as : List α} {tokens : List Token} (literal : String)
      (h : P as tokens) : Opened kind P as (⟨kind, literal⟩ :: tokens)

/-- A name that is one token. -/
def IsNameToken (name : String) (tokens : List Token) : Prop :=
  tokens = [⟨.identifier, name⟩]

/-- Names with commas between them, up to the parenthesis that closes them. -/
def ClosesColumns (names : List String) (tokens : List Token) : Prop :=
  ∃ list closing, tokens = list ++ [⟨.closeParen, closing⟩] ∧
    Listed .comma IsNameToken names list

namespace Parser

variable {α β : Type} {R : Token → Prop} {P : α → List Token → Prop}
  {Q : β → List Token → Prop}

/-- On words whose tokens satisfy `R`, every value of the parser is read from
words in front, whose tokens satisfy `P` with it. -/
def Consumes (R : Token → Prop) (parser : Parser α)
    (P : α → List Token → Prop) : Prop :=
  ∀ words, (∀ word ∈ words, R word.token) → ∀ a rest,
    parser words = (.ok a, rest) →
    ∃ taken, words = taken ++ rest ∧ P a (taken.map (·.token))

theorem Consumes.mono {parser : Parser α} {P' : α → List Token → Prop}
    (h : Consumes R parser P) (himp : ∀ a tokens, P a tokens → P' a tokens) :
    Consumes R parser P' := by
  intro words hR a rest hrun
  obtain ⟨taken, hwords, ha⟩ := h words hR a rest hrun
  exact ⟨taken, hwords, himp a _ ha⟩

/-- What a parser takes, whatever its words are. -/
theorem Consumes.taken {parser : Parser α} {words rest : List Word} {a : α}
    (h : Consumes (fun _ => True) parser P)
    (hrun : parser words = (.ok a, rest)) :
    ∃ taken, words = taken ++ rest ∧ P a (taken.map (·.token)) :=
  h words (fun _ _ => trivial) a rest hrun

theorem consumes_pure {a : α} (h : P a []) : Consumes R (pure a) P := by
  intro words hR b rest hrun
  obtain ⟨rfl, rfl⟩ : a = b ∧ words = rest := by simpa using hrun
  exact ⟨[], rfl, h⟩

theorem consumes_fail (error : ParseError) :
    Consumes R (fail error : Parser α) P := by
  intro words hR b rest hrun
  simp at hrun

theorem consumes_failAt (code : SyntaxCode) (token : Token) :
    Consumes R (failAt code token : Parser α) P :=
  consumes_fail _

/-- The tokens of the second parser follow those of the first one. -/
theorem Consumes.bind {first : Parser α} {second : α → Parser β}
    (hfirst : Consumes R first P)
    (hsecond : ∀ a tokens, P a tokens →
      Consumes R (second a) fun b more => Q b (tokens ++ more)) :
    Consumes R (first >>= second) Q := by
  intro words hR b rest hrun
  obtain ⟨a, middle, hmiddle, hlast⟩ := bind_eq_ok_iff.mp hrun
  obtain ⟨taken, rfl, ha⟩ := hfirst words hR a middle hmiddle
  obtain ⟨taken', rfl, hb⟩ :=
    hsecond a _ ha middle (List.forall_mem_append.mp hR).2 b rest hlast
  exact ⟨taken ++ taken', (List.append_assoc ..).symm, by rwa [List.map_append]⟩

theorem consumes_nextToken :
    Consumes R nextToken fun token tokens =>
      (R token ∧ tokens = [token]) ∨ token = Token.ending ∧ tokens = [] := by
  intro words hR token rest hrun
  cases words with
  | nil =>
      obtain ⟨rfl, rfl⟩ : Token.ending = token ∧ [] = rest := by
        simpa using hrun
      exact ⟨[], rfl, .inr ⟨rfl, rfl⟩⟩
  | cons word tail =>
      obtain ⟨rfl, rfl⟩ : word.token = token ∧ tail = rest := by
        simpa using hrun
      exact ⟨[word], rfl, .inl ⟨hR word List.mem_cons_self, rfl⟩⟩

/-- A parser that refuses the end takes a token. -/
theorem consumes_nextToken_bind {second : Token → Parser α}
    (hending : ∀ words a rest, second Token.ending words ≠ (.ok a, rest))
    (h : ∀ token, R token →
      Consumes R (second token) fun a more => P a (token :: more)) :
    Consumes R (nextToken >>= second) P := by
  refine consumes_nextToken.bind fun token tokens htokens => ?_
  obtain ⟨hR, rfl⟩ | ⟨rfl, rfl⟩ := htokens
  · exact h token hR
  · exact fun words _ a rest hrun => absurd hrun (hending words a rest)

theorem consumes_expect {kind : TokenKind} (code : SyntaxCode)
    (hkind : kind ≠ .ending) :
    Consumes R (expect kind code) fun literal tokens => tokens =
      [⟨kind, literal⟩] := by
  refine consumes_nextToken_bind (fun words a rest hrun => ?_) fun token _ => ?_
  · simp [hkind.symm] at hrun
  · split
    · next hmatch => exact consumes_pure (by rw [← hmatch])
    · exact consumes_failAt code token

theorem consumes_identifier (code : SyntaxCode) :
    Consumes R (identifier code) fun name tokens => tokens =
      [⟨.identifier, name⟩] :=
  consumes_expect code (by simp)

/-- A parser that takes the next word when this one passes a test, and leaves
it otherwise. -/
theorem consumes_of_test {parser : Parser α} {test : Word → Prop}
    [DecidablePred test] {taken : Word → α} {refused : α}
    (hnil : parser [] = (.ok refused, []))
    (hcons : ∀ word tail, parser (word :: tail) =
      if test word then (.ok (taken word), tail)
      else (.ok refused, word :: tail)) :
    Consumes R parser fun a tokens =>
      (∃ word, test word ∧ a = taken word ∧ tokens = [word.token]) ∨
        a = refused ∧ tokens = [] := by
  intro words hR a rest hrun
  cases words with
  | nil =>
      obtain ⟨rfl, rfl⟩ : refused = a ∧ [] = rest := by simpa [hnil] using hrun
      exact ⟨[], rfl, .inr ⟨rfl, rfl⟩⟩
  | cons word tail =>
      rw [hcons] at hrun
      split at hrun
      · next htest =>
          obtain ⟨rfl, rfl⟩ : taken word = a ∧ tail = rest := by
            simpa using hrun
          exact ⟨[word], rfl, .inl ⟨word, htest, rfl, rfl⟩⟩
      · obtain ⟨rfl, rfl⟩ : refused = a ∧ word :: tail = rest := by
          simpa using hrun
        exact ⟨[], rfl, .inr ⟨rfl, rfl⟩⟩

theorem consumes_accept (kind : TokenKind) :
    Consumes R (accept kind) fun taken tokens =>
      (taken = true ∧ ∃ literal, tokens = [⟨kind, literal⟩]) ∨
        taken = false ∧ tokens = [] := by
  have htest : Consumes R (accept kind) _ :=
    consumes_of_test rfl fun word tail => by rw [accept]
  refine htest.mono ?_
  rintro taken tokens (⟨word, rfl, rfl, rfl⟩ | hrefused)
  · exact .inl ⟨rfl, word.token.literal, rfl⟩
  · exact .inr hrefused

theorem consumes_optional (kind : TokenKind) {parser : Parser α}
    (h : Consumes R parser P) :
    Consumes R (optional kind parser) (Announced kind P) := by
  refine (consumes_accept kind).bind fun taken tokens htaken => ?_
  obtain ⟨rfl, literal, rfl⟩ | ⟨rfl, rfl⟩ := htaken
  · refine h.bind fun a tokens ha => consumes_pure ?_
    simpa using Announced.present literal ha
  · exact consumes_pure .absent

theorem consumes_clause (kind : TokenKind) {P : List α → List Token → Prop}
    {parser : Parser (List α)} (h : Consumes R parser P) :
    Consumes R (clause kind parser) (Opened kind P) := by
  refine (consumes_accept kind).bind fun taken tokens htaken => ?_
  obtain ⟨rfl, literal, rfl⟩ | ⟨rfl, rfl⟩ := htaken
  · exact h.mono fun as tokens has => .present literal has
  · exact consumes_pure .absent

/-- The separator between two entries is a token of its own. -/
theorem exists_separator {separator : TokenKind} {words rest : List Word}
    (h : accept separator words = (.ok true, rest)) :
    ∃ word literal, words = word :: rest ∧
      word.token = ⟨separator, literal⟩ := by
  obtain ⟨taken, rfl, htaken⟩ := (consumes_accept separator).taken h
  obtain ⟨-, literal, hliteral⟩ | ⟨hfalse, -⟩ := htaken
  · obtain ⟨word, rfl, hword⟩ := List.map_eq_singleton_iff.mp hliteral
    exact ⟨word, literal, rfl, hword⟩
  · exact absurd hfalse.symm Bool.false_ne_true

/-- The last entry is followed by no separator, and nothing is taken behind
it. -/
theorem eq_of_accept_eq_false {separator : TokenKind} {words rest : List Word}
    {found : Except ParseError Bool}
    (h : accept separator words = (found, rest)) (hfound : found ≠ .ok true) :
    words = rest := by
  obtain ⟨taken, left, haccept⟩ := exists_accept_eq_ok separator words
  obtain ⟨rfl, rfl⟩ := Prod.mk.inj (h.symm.trans haccept)
  obtain ⟨front, rfl, ⟨htrue, -⟩ | ⟨-, hfront⟩⟩ :=
    (consumes_accept separator).taken h
  · exact absurd (congrArg Except.ok htrue) hfound
  · rw [List.map_eq_nil_iff.mp hfront, List.nil_append]

theorem consumes_separated {separator : TokenKind} {entry : List α → Parser α}
    (hentry : ∀ before, Consumes R (entry before) P) (before : List α) :
    Consumes R (separated separator entry before) fun as tokens =>
      ∃ later, as = before ++ later ∧ Listed separator P later tokens := by
  intro words hR as rest hrun
  fun_induction separated separator entry before words with
  | case1 before words error left hfailed => simp at hrun
  | case2 before words a left hgiven left' hmore hshorter ih =>
      obtain ⟨taken, rfl, ha⟩ := hentry before words hR a left hgiven
      obtain ⟨between, literal, rfl, hbetween⟩ := exists_separator hmore
      have hR' := (List.forall_mem_cons.mp (List.forall_mem_append.mp hR).2).2
      obtain ⟨taken', rfl, later, rfl, hlater⟩ := ih hR' hrun
      refine ⟨taken ++ between :: taken', by simp, a :: later, by simp, ?_⟩
      rw [List.map_append, List.map_cons, hbetween]
      exact .more ha hlater
  | case3 before words a left hgiven left' hmore hlonger =>
      obtain ⟨taken, rfl, ha⟩ := hentry before words hR a left hgiven
      obtain ⟨between, literal, rfl, hbetween⟩ := exists_separator hmore
      rw [List.length_append, List.length_cons] at hlonger
      omega
  | case4 before words a left hgiven found left' hlast hfound =>
      obtain ⟨taken, rfl, ha⟩ := hentry before words hR a left hgiven
      obtain ⟨rfl, rfl⟩ : before ++ [a] = as ∧ left' = rest := by
        simpa using hrun
      obtain rfl := eq_of_accept_eq_false hfound hlast
      exact ⟨taken, rfl, [a], rfl, .last ha⟩

/-- A list of entries from its first one. -/
theorem consumes_list {separator : TokenKind} {entry : List α → Parser α}
    (hentry : ∀ before, Consumes R (entry before) P) :
    Consumes R (separated separator entry []) (Listed separator P) := by
  refine (consumes_separated hentry []).mono ?_
  rintro as tokens ⟨later, rfl, hlater⟩
  exact hlater

/-! ## The columns of a view -/

theorem consumes_orReplace :
    Consumes R orReplace fun _ tokens => ∀ token ∈ tokens, token.kind ≠
      .openParen := by
  refine (consumes_accept _).bind fun taken tokens htaken => ?_
  obtain ⟨rfl, literal, rfl⟩ | ⟨rfl, rfl⟩ := htaken
  · refine (consumes_expect .invalidMethod (by simp)).bind
      fun literal' tokens htokens => ?_
    exact consumes_pure (by simp [htokens])
  · exact consumes_pure (by simp)

theorem consumes_viewColumns : Consumes R viewColumns ClosesColumns := by
  refine (consumes_list fun _ => consumes_identifier .invalidField).bind
    fun names list hlist => ?_
  refine (consumes_expect .syntaxNear (by simp)).bind
    fun closing tokens htokens => ?_
  exact consumes_pure ⟨list, closing, by simp [htokens], hlist⟩

end Parser

end ReportQuery
