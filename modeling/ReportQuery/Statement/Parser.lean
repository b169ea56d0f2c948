import ReportQuery.Statement.Error
import ReportQuery.Token.Word

/-!
# Reading words

A parser takes words from the front of a list and gives a value or an error,
always with the words that are left, so that reading can go on after an error.
The combinators below look at one word at a time: they take it, or refuse it
and leave it.
-/

namespace ReportQuery

/-- A step that takes words from the front of a list. -/
def Parser (α : Type) : Type :=
  List Word → Except ParseError α × List Word

namespace Parser

/-- Run a parser on the words of a list. -/
def run {α : Type} (parser : Parser α) (words : List Word) :
    Except ParseError α × List Word :=
  parser words

/-- Take nothing and give a value. -/
def value {α : Type} (a : α) : Parser α := fun words => (.ok a, words)

/-- Take nothing and fail. -/
def fail {α : Type} (error : ParseError) :
    Parser α := fun words => (.error error, words)

/-- One parser after another; the second sees what the first gave. -/
def andThen {α β : Type} (first : Parser α) (second : α → Parser β) :
    Parser β := fun words =>
  match first words with
  | (.ok a, rest) => second a rest
  | (.error error, rest) => (.error error, rest)

instance : Monad Parser where
  pure := value
  bind := andThen

/-- The next token, the end when no word is left. -/
def nextToken : Parser Token := fun words =>
  match words with
  | [] => (.ok Token.ending, [])
  | word :: rest => (.ok word.token, rest)

/-- Take the next word when it has a kind, and tell whether it had. -/
def accept (kind : TokenKind) : Parser Bool := fun words =>
  match words with
  | [] => (.ok false, [])
  | word :: rest =>
    if word.token.kind = kind then (.ok true, rest)
    else (.ok false, word :: rest)

/-- Take the next word when it is a parenthesis that opens a call. -/
def acceptCall : Parser Bool := fun words =>
  match words with
  | [] => (.ok false, [])
  | word :: rest =>
    if word.opensCall then (.ok true, rest) else (.ok false, word :: rest)

/-- Take an identifier when it comes next. -/
def identifier? : Parser (Option String) := fun words =>
  match words with
  | [] => (.ok none, [])
  | word :: rest =>
    if word.token.kind = .identifier then (.ok (some word.token.literal), rest)
    else (.ok none, word :: rest)

/-- Fail at a token. -/
def failAt {α : Type} (code : SyntaxCode) (token : Token) : Parser α :=
  fail (.unexpected code token.literal)

/-- Take the next token, which has to be of a kind. -/
def expect (kind : TokenKind) (code : SyntaxCode) : Parser String := do
  let token ← nextToken
  if token.kind = kind then pure token.literal else failAt code token

/-- Take an identifier, which has to come next. -/
def identifier (code : SyntaxCode) : Parser String :=
  expect .identifier code

/-- Read entries with a separator between neighbours; each sees the entries
before it. -/
def separated {α : Type} (separator : TokenKind) (entry : List α → Parser α)
    (before : List α) :
    Parser (List α) := fun words =>
  match entry before words with
  | (.error error, rest) => (.error error, rest)
  | (.ok a, rest) =>
    match accept separator rest with
    | (.ok true, rest') =>
      if rest'.length < words.length then
        separated separator entry (before ++ [a]) rest'
      else (.ok (before ++ [a]), rest')
    | (_, rest') => (.ok (before ++ [a]), rest')
termination_by words => words.length

/-- Read a value when a word of some kind comes next, after taking that word. -/
def optional {α : Type} (kind : TokenKind) (parser : Parser α) :
    Parser (Option α) := do
  if ← accept kind then
    let a ← parser
    pure (some a)
  else pure none

/-- Read the entries of a clause that the word of some kind opens; there are
none without it. -/
def clause {α : Type} (kind : TokenKind) (parser : Parser (List α)) :
    Parser (List α) := do
  if ← accept kind then parser else pure []

@[simp] theorem pure_apply {α : Type} (a : α) (words : List Word) :
    (pure a : Parser α) words = (.ok a, words) := rfl

@[simp] theorem fail_apply {α : Type} (error : ParseError) (words : List Word) :
    (fail error : Parser α) words = (.error error, words) := rfl

@[simp] theorem failAt_apply {α : Type} (code : SyntaxCode) (token : Token)
    (words : List Word) :
    (failAt code token : Parser α) words =
      (.error (.unexpected code token.literal), words) := rfl

@[simp] theorem nextToken_nil : nextToken [] = (.ok Token.ending, []) := rfl

@[simp] theorem nextToken_cons (word : Word) (rest : List Word) :
    nextToken (word :: rest) = (.ok word.token, rest) := rfl

theorem bind_apply {α β : Type} (first : Parser α) (second : α → Parser β)
    (words : List Word) :
    (first >>= second) words =
      match first words with
      | (.ok a, rest) => second a rest
      | (.error error, rest) => (.error error, rest) := rfl

theorem bind_of_ok {α β : Type} {first : Parser α} {second : α → Parser β}
    {words rest : List Word} {a : α} (h : first words = (.ok a, rest)) :
    (first >>= second) words = second a rest := by
  rw [bind_apply, h]

theorem bind_of_error {α β : Type} {first : Parser α} {second : α → Parser β}
    {words rest : List Word} {error : ParseError}
    (h : first words = (.error error, rest)) :
    (first >>= second) words = (.error error, rest) := by
  rw [bind_apply, h]

end Parser

end ReportQuery
