import ReportQuery.Text.Characters
import ReportQuery.Text.Search
import ReportQuery.Xml

/-!
# XML markup

A document is cut into texts and markup before its tags are matched. An opening
tag ends at the first closing bracket that is not inside quotes, a closing tag
and an instruction at the first closing bracket or with the document. Any other
markup that the document does not close is the last.
-/

namespace ReportQuery.Xml

/-- A piece of a document. -/
inductive Markup where
  | text (raw : List Char)
  /-- A section of characters that stand for themselves. -/
  | verbatim (cs : List Char)
  | opening (tag : Tag)
  /-- A tag that closes an element, with everything between its slash and its
  bracket. -/
  | closing (inner : List Char)
  /-- An opening tag that closes itself. -/
  | empty (tag : Tag)
  /-- A document type declaration. -/
  | doctype
  /-- A comment or an instruction. -/
  | aside
  | broken (fault : Fault)
deriving DecidableEq, Repr

/-- Whether a character is white space in a document. -/
def isSpace (c : Char) : Bool :=
  c == ' ' || c == '\t' || c == '\n' || c == '\r'

/-- The characters without the white space at their front. -/
def trimStart (cs : List Char) : List Char :=
  cs.dropWhile isSpace

/-- The characters without the white space at their end. -/
def trimEnd (cs : List Char) : List Char :=
  (cs.reverse.dropWhile isSpace).reverse

/-- The text before the first `stop`, and what follows it. -/
def until? (stop : List Char) : List Char → Option (List Char × List Char)
  | [] => none
  | c :: cs =>
    match Text.dropLeading? stop (c :: cs) with
    | some rest => some ([], rest)
    | none => (until? stop cs).map fun (before, rest) => (c :: before, rest)

/-- The inside of a tag up to its closing bracket, and what follows it. The
quote is the one that has to be closed first. -/
def tagBody? (quote : Option Char) : List Char → Option (List Char × List Char)
  | [] => none
  | c :: cs =>
    match quote with
    | some q =>
      (tagBody? (if c = q then none else some q) cs).map fun (body, rest) =>
        (c :: body, rest)
    | none =>
      if c = '>' then some ([], cs)
      else
        (tagBody? (if c = '"' ∨ c = '\'' then some c else none) cs).map
          fun (body, rest) => (c :: body, rest)

/-- The text before the first closing bracket, which may be missing, and what
follows it. -/
def upToBracket (cs : List Char) : List Char × List Char :=
  (cs.takeWhile (· != '>'), (cs.dropWhile (· != '>')).drop 1)

/-- The inside of a declaration, whose brackets are nested `depth` deep, and
what follows it. -/
def doctypeBody? (depth : Nat) : List Char → Option (List Char × List Char)
  | [] => none
  | c :: cs =>
    if c = '>' ∧ depth = 0 then some ([], cs)
    else
      (doctypeBody? (if c = '<' then depth + 1 else if c =
        '>' then depth - 1 else depth) cs).map
        fun (body, rest) => (c :: body, rest)

/-- The tag that the inside of its brackets denotes. -/
def tagOf (body : List Char) : Tag where
  name := String.ofList (body.takeWhile fun c => !isSpace c)
  attributes := body.dropWhile fun c => !isSpace c

/-- The markup of an opening tag; a slash at its end closes it. -/
def openingTag (body : List Char) : Markup :=
  match body.reverse with
  | '/' :: inner => .empty (tagOf inner.reverse)
  | _ => .opening (tagOf body)

/-- Markup and what follows it, which is nothing when the markup is not
closed. -/
def orUnclosed {α : Type} (name : String) (markup : α → Markup) :
    Option (α × List Char) → Markup × List Char
  | some (a, rest) => (markup a, rest)
  | none => (.broken (.unclosed name), [])

/-- What follows a word at the front, whatever the case of its ASCII letters. -/
def dropWord? (word : String) (cs : List Char) : Option (List Char) :=
  if Text.sameLetters (String.ofList (cs.take word.length)) word then
    some (cs.drop word.length)
  else none

/-- The markup of a document type declaration from the inside of its brackets
on. -/
def doctypeOf (body : List Char) : Markup :=
  if body.all isSpace then .broken .emptyDoctype else .doctype

/-- The markup after an exclamation mark, and what follows it. -/
def declaration (cs : List Char) : Markup × List Char :=
  match cs with
  | '-' :: _ =>
    orUnclosed "Comment" (fun _ => .aside)
      ((Text.dropLeading? ['-', '-'] cs).bind (until? "-->".toList))
  | '[' :: _ =>
    orUnclosed "CData" .verbatim
      ((dropWord? "[CDATA[" cs).bind (until? "]]>".toList))
  | 'D' :: _ =>
    orUnclosed "DOCTYPE" doctypeOf
      ((dropWord? "DOCTYPE" cs).bind (doctypeBody? 0))
  | 'd' :: _ =>
    orUnclosed "DOCTYPE" doctypeOf
      ((dropWord? "DOCTYPE" cs).bind (doctypeBody? 0))
  | c :: _ => (.broken (.unknownMarkup (firstByte c)), [])
  | [] => (.broken (.unclosed "Bang"), [])

/-- The markup after a question mark, up to the closing bracket. -/
def instruction (body : List Char) : Markup :=
  match body.reverse with
  | '?' :: _ :: _ => .aside
  | _ => .broken (.unclosed "XmlDecl")

/-- The markup after an opening bracket, and what follows it. -/
def markup (cs : List Char) : Markup × List Char :=
  match cs with
  | '!' :: rest => declaration rest
  | '/' :: rest =>
    let (inner, rest) := upToBracket rest
    (.closing inner, rest)
  | '?' :: rest =>
    let (body, rest) := upToBracket rest
    (instruction body, rest)
  | _ => orUnclosed "Element" openingTag (tagBody? none cs)

/-- The pieces of a document. The first number bounds them. -/
def scanFrom : Nat → List Char → List Markup
  | 0, _ => []
  | _, [] => []
  | _, ['<'] => []
  | fuel + 1, '<' :: cs =>
    let (first, rest) := markup cs
    first :: scanFrom fuel rest
  | fuel + 1, cs =>
    .text (cs.takeWhile (· != '<')) :: scanFrom fuel (cs.dropWhile (· != '<'))

/-- The pieces of a document. -/
def scan (cs : List Char) : List Markup :=
  scanFrom cs.length cs

end ReportQuery.Xml
