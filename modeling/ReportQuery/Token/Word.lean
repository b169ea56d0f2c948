import ReportQuery.Token.Lexer

/-!
# Words of a statement

Blanks separate tokens and carry no other meaning, save that a function call
needs its parenthesis right after the name. A word is a token that is not a
blank, and an opening parenthesis remembers whether a blank came before it.
-/

namespace ReportQuery

/-- A token that is not a blank. -/
structure Word where
  token : Token
  /-- Whether this is an opening parenthesis with no blank before it. -/
  opensCall : Bool
deriving DecidableEq, Repr

namespace Word

/-- The words among lexemes; `spaced` tells whether a blank came just before. -/
def ofLexemes (spaced : Bool) : List Lexeme → List Word
  | [] => []
  | lexeme :: rest =>
    if lexeme.token.kind = .blank then ofLexemes true rest
    else
      ⟨lexeme.token, !spaced && lexeme.token.kind == .openParen⟩ ::
        ofLexemes false rest

/-- The words of a text. -/
def ofText (s : String) : List Word :=
  ofLexemes false (Lexeme.split s.toList)

end Word

end ReportQuery
