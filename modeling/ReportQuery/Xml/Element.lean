import ReportQuery.Xml.Attribute
import ReportQuery.Xml.Item

/-!
# Elements of a document

Three ways to read an element whose tag has been read: as a text, as a list of
members that are elements themselves, and by passing over it. An element is
passed over by its tags alone, so that the references in its texts need not be
right, those of a text at its front apart. Each reading gives back the events
that are left, which are never more than there were.
-/

namespace ReportQuery.Xml

/-- Events that are left of some. -/
abbrev Left (events : List Event) :=
  { rest : List Event // rest.length ≤ events.length }

namespace Left

/-- What is left behind an event. -/
def behind {event : Event} {rest : List Event} (left : Left rest) :
    Left (event :: rest) :=
  ⟨left.1, Nat.le_succ_of_le left.2⟩

/-- What is left of events that were left of others. -/
def trans {events : List Event} (first : Left events) (second : Left first.1) :
    Left events :=
  ⟨second.1, Nat.le_trans second.2 first.2⟩

/-- What is left without white space at its front. -/
def trimmed {events : List Event} (left : Left events) : Left events :=
  ⟨trimFront left.1, Nat.le_trans (length_trimFront_le left.1) left.2⟩

end Left

/-- What is left behind an item. -/
def Step.left {events : List Event} (step : Step events) : Left events :=
  ⟨step.rest, Nat.le_of_lt step.length_rest_lt⟩

/-- What is left behind the end of an element, when `depth` more elements of
its name are open. -/
def dropElement (name : String) : (depth : Nat) → (events : List Event) →
    Except Fault (Left events)
  | _, [] => .error .unexpectedEnd
  | _, .broken (.unclosed _) :: _ => .error .unexpectedEnd
  | _, .broken fault :: _ => .error fault
  | depth, .start tag :: rest =>
    (dropElement name (if tag.name = name then depth + 1 else depth) rest).map
      Left.behind
  | depth, .stop found :: rest =>
    if found = name then
      match depth with
      | 0 => .ok ⟨rest, Nat.le_succ rest.length⟩
      | depth + 1 => (dropElement name depth rest).map Left.behind
    else (dropElement name depth rest).map Left.behind
  | depth, _ :: rest => (dropElement name depth rest).map Left.behind

/-- What is left behind the end of an element. White space is dropped there as
it is between items, but not when a text has to be passed over first. -/
def passRest (name : String) (events : List Event) :
    Except Fault (Left events) :=
  match events with
  | .broken fault :: _ => .error fault
  | .text piece :: rest => dropElement name 0 (.text piece :: rest)
  | events => (dropElement name 0 events).map Left.trimmed

/-- Pass over an element of a name. -/
def passOver (name : String) (events : List Event) :
    Except Fault (Left events) :=
  (next events).bind fun step =>
    match step.item with
    | .stop => .ok step.left
    | .text _ => (passRest name step.rest).map step.left.trans
    | .start tag =>
      (passRest tag.name step.rest).bind fun inner =>
        (passRest name inner.1).map fun left =>
          step.left.trans (inner.trans left)

/-- Read an element that holds nothing but text. -/
def readText (events : List Event) : Except Fault (String × Left events) :=
  (next events).bind fun step =>
    match step.item with
    | .stop => .ok ("", step.left)
    | .start tag => .error (.unexpectedElement tag.name)
    | .text s =>
      (next step.rest).bind fun last =>
        match last.item with
        | .start tag => .error (.unexpectedElement tag.name)
        | _ => .ok (s, step.left.trans last.left)

/-- A way to take in an element: from what is known before, its tag and the
events behind that. -/
abbrev TakeElement (σ : Type) :=
  σ → Tag → (events : List Event) → Except Fault (σ × Left events)

/-- Take in the elements inside an element, one after the other, up to its end.
Texts between them only have to be well formed. -/
def readMembers {σ : Type} (take : TakeElement σ) (state : σ)
    (events : List Event) : Except Fault (σ × Left events) :=
  match next events with
  | .error fault => .error fault
  | .ok ⟨.stop, rest, h⟩ => .ok (state, ⟨rest, Nat.le_of_lt h⟩)
  | .ok ⟨.text _, rest, h⟩ =>
    (readMembers take state rest).map fun (state, left) =>
      (state, ⟨left.1, Nat.le_trans left.2 (Nat.le_of_lt h)⟩)
  | .ok ⟨.start tag, rest, h⟩ =>
    match take state tag rest with
    | .error fault => .error fault
    | .ok (state, ⟨rest', h'⟩) =>
      (readMembers take state rest').map fun (state, left) =>
        (state,
          ⟨left.1, Nat.le_trans left.2 (Nat.le_trans h' (Nat.le_of_lt h))⟩)
termination_by events.length
decreasing_by
  · exact h
  · exact Nat.lt_of_le_of_lt h' h

/-- Take in the elements inside an element of a tag. -/
def readElement {σ : Type} (take : TakeElement σ) (state : σ) (tag : Tag)
    (events : List Event) : Except Fault (σ × Left events) :=
  match tag.attributeFault? with
  | some fault => .error (.inAttributes fault)
  | none => readMembers take state events

/-- Take in the member of a name, which must not have been there before. -/
def readMember {α : Type} {events : List Event} (name : String)
    (before : Option α) (value : Except Fault (α × Left events)) :
    Except Fault (Option α × Left events) :=
  if before.isSome then .error (.repeatedMember name)
  else value.map fun (value, left) => (some value, left)

end ReportQuery.Xml
