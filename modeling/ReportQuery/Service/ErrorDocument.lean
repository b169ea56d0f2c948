import ReportQuery.Service.Error
import ReportQuery.Xml.Element

/-!
# Error documents

The service explains a refused query in a document: inside its outermost
element, an element `ApiError` holds the kind of the error, the text that
triggered it and the path of a field. Each may be missing, and none may be
repeated. Other elements are passed over, and so is everything after the
outermost element.
-/

namespace ReportQuery.ApiError

/-- The members of an error as far as they were read. -/
structure Members where
  kind : Option String := none
  trigger : Option String := none
  fieldPath : Option String := none

namespace Members

/-- Take in an element inside the error. -/
def take : Xml.TakeElement Members := fun members tag events =>
  match Xml.localName tag.name with
  | "type" =>
    (Xml.readMember "type" members.kind (Xml.readText events)).map
      fun (kind, left) => ({ members with kind }, left)
  | "trigger" =>
    (Xml.readMember "trigger" members.trigger (Xml.readText events)).map
      fun (trigger, left) => ({ members with trigger }, left)
  | "fieldPath" =>
    (Xml.readMember "fieldPath" members.fieldPath (Xml.readText events)).map
      fun (fieldPath, left) => ({ members with fieldPath }, left)
  | _ => (Xml.passOver tag.name events).map fun left => (members, left)

/-- The error that members denote; an empty path is none. -/
def toError (members : Members) : ApiError :=
  { kind := members.kind.getD ""
    trigger := members.trigger.getD ""
    field := members.fieldPath.filter fun path => !path.isEmpty }

end Members

/-- Take in an element of the document. -/
def takeError : Xml.TakeElement (Option Members) := fun error tag events =>
  match Xml.localName tag.name with
  | "ApiError" =>
    Xml.readMember "ApiError" error (Xml.readElement Members.take {} tag events)
  | _ => (Xml.passOver tag.name events).map fun left => (error, left)

/-- The error that a document explains. -/
def ofDocument (document : String) : Except Xml.Fault ApiError := do
  let root ← Xml.next (Xml.trimFront (Xml.Event.ofDocument document))
  match root.item with
  | .start tag =>
    let (error, _) ← Xml.readElement takeError none tag root.rest
    match error with
    | some members => .ok members.toError
    | none => .error (.missingMember "ApiError")
  | _ => .error .expectedElement

/-- The error of a refused query. One whose document cannot be read is named by
what is wrong with the document. -/
def ofRefusal (document : String) : ApiError :=
  match ofDocument document with
  | .ok error => error
  | .error fault => { kind := fault.message, trigger := "", field := none }

end ReportQuery.ApiError
