import ReportQuery.Xml.Markup

/-!
# Events of a document

What a document holds, one thing after the other: elements begin and end, and
texts stand between. Every end has the name of the innermost element that is
open there. An element whose tag closes itself begins and ends. Comments and
instructions are left out, and a byte order mark at the front is dropped. A
document that goes wrong ends with its fault.
-/

namespace ReportQuery.Xml

/-- A piece of text. -/
inductive Piece where
  /-- Characters, some of them written as references. -/
  | characters (raw : List Char)
  /-- Characters that stand for themselves. -/
  | verbatim (cs : List Char)
deriving DecidableEq, Repr

/-- An event of a document. -/
inductive Event where
  | start (tag : Tag)
  | stop (name : String)
  | text (piece : Piece)
  /-- A document type declaration. -/
  | doctype
  /-- The document goes wrong here; nothing follows. -/
  | broken (fault : Fault)
deriving DecidableEq, Repr

namespace Event

/-- Whether white space may stand at the end of a closing tag. -/
def isPaddingInClosing (c : Char) : Bool :=
  isSpace c || c == '\x0c'

/-- The name in a closing tag, without white space at its end unless there is
nothing else. -/
def closingName (inner : List Char) : List Char :=
  match inner.reverse.dropWhile isPaddingInClosing with
  | [] => inner
  | name => name.reverse

/-- The events of some markup inside the open elements of some names, the
innermost first. -/
def ofMarkup (outer : List String) : List Markup → List Event
  | [] => []
  | .text raw :: rest => text (.characters raw) :: ofMarkup outer rest
  | .verbatim cs :: rest => text (.verbatim cs) :: ofMarkup outer rest
  | .opening tag :: rest => start tag :: ofMarkup (tag.name :: outer) rest
  | .empty tag :: rest => start tag :: stop tag.name :: ofMarkup outer rest
  | .closing inner :: rest =>
    match outer with
    | [] => [broken (.mismatchedTag "" (String.ofList inner))]
    | expected :: outer =>
      let found := String.ofList (closingName inner)
      if expected = found then stop found :: ofMarkup outer rest
      else [broken (.mismatchedTag expected found)]
  | .doctype :: rest => doctype :: ofMarkup outer rest
  | .aside :: rest => ofMarkup outer rest
  | .broken fault :: _ => [broken fault]

/-- The events of a document. -/
def ofDocument (document : String) : List Event :=
  let cs := document.toList
  ofMarkup [] (scan ((Text.dropLeading? ['\uFEFF'] cs).getD cs))

/-- Whether the event is a piece of text. -/
def isText : Event → Bool
  | text _ => true
  | _ => false

end Event

end ReportQuery.Xml
