import ReportQuery.Xml.Event
import ReportQuery.Xml.Reference

/-!
# Items of a document

The events of a document are read item by item. Pieces of text with nothing but
comments between them are one item; white space at its ends does not belong to
it, and white space alone is no item. Document type declarations are none
either. A document that ends where an item has to be is at fault.
-/

namespace ReportQuery.Xml

/-- An item of a document. -/
inductive Item where
  | start (tag : Tag)
  | stop
  | text (s : String)
deriving DecidableEq, Repr

/-- An item at the front of some events, and what is left after it. -/
structure Step (events : List Event) where
  item : Item
  rest : List Event
  length_rest_lt : rest.length < events.length

/-- The events without white space at the front of a text that they begin with,
and without that text when nothing else is in it. -/
def trimFront : List Event → List Event
  | .text (.characters raw) :: rest =>
    match trimStart raw with
    | [] => trimFront rest
    | raw => .text (.characters raw) :: rest
  | events => events

theorem length_trimFront_le (events : List Event) :
    (trimFront events).length ≤ events.length := by
  fun_induction trimFront events with
  | case1 raw rest _ ih => simp; omega
  | case2 => simp
  | case3 => simp

/-- The pieces of text at the front of some events. -/
def leadingPieces : List Event → List Piece
  | .text piece :: rest => piece :: leadingPieces rest
  | _ => []

/-- The characters that a piece denotes. -/
def Piece.decode : Piece → Except Fault (List Char)
  | characters raw => (resolve raw).mapError .reference
  | verbatim cs => .ok cs

/-- The characters that pieces of one text denote. -/
def decodePieces : List Piece → Except Fault (List Char)
  | [] => .ok []
  | [.characters raw] => (Piece.characters (trimEnd raw)).decode
  | piece :: rest =>
    piece.decode.bind fun cs => (decodePieces rest).map fun more => cs ++ more

/-- The item that pieces of one text make up, unless they are white space
alone. -/
def textItem? (pieces : List Piece) : Except Fault (Option Item) :=
  match pieces with
  | [.characters raw] =>
    if raw.all isSpace then .ok none
    else (decodePieces pieces).map fun cs => some (.text (String.ofList cs))
  | _ => (decodePieces pieces).map fun cs => some (.text (String.ofList cs))

/-- The step over an event that is no item, to an item behind it. -/
def Step.after {event : Event} {rest events : List Event} (step : Step events)
    (h : events.length ≤ rest.length) : Step (event :: rest) where
  item := step.item
  rest := step.rest
  length_rest_lt := by have := step.length_rest_lt; simp; omega

/-- The item at the front of some events. -/
def next : (events : List Event) → Except Fault (Step events)
  | [] => .error .unexpectedEnd
  | .broken fault :: _ => .error fault
  | .start tag :: rest =>
    .ok ⟨.start tag, trimFront rest,
      Nat.lt_succ_of_le (length_trimFront_le rest)⟩
  | .stop _ :: rest =>
    .ok ⟨.stop, trimFront rest, Nat.lt_succ_of_le (length_trimFront_le rest)⟩
  | .doctype :: rest =>
    (next (trimFront rest)).map fun step =>
      step.after (length_trimFront_le rest)
  | .text piece :: rest =>
    (textItem? (piece :: leadingPieces rest)).bind fun item =>
      match item with
      | some item =>
        .ok ⟨item, rest.dropWhile Event.isText,
          Nat.lt_succ_of_le (List.dropWhile_suffix _).length_le⟩
      | none => (next rest).map fun step => step.after (Nat.le_refl _)
termination_by events => events.length
decreasing_by
  · exact Nat.lt_succ_of_le (length_trimFront_le rest)
  · simp

end ReportQuery.Xml
