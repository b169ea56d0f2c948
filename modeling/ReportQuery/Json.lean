/-!
# JSON values

A value keeps what a document reader can tell apart: whole numbers are kept
exactly, and any other number only as one that is not whole. Members of an
object keep their order and may repeat a name.
-/

namespace ReportQuery

/-- A JSON value. -/
inductive JsonValue where
  | null
  | bool (b : Bool)
  | integer (n : Int)
  /-- A number that is not written as a whole number of 64 bits. -/
  | fraction
  | text (s : String)
  | array (items : List JsonValue)
  | object (members : List (String × JsonValue))
  /-- A value with the form of JSON that denotes none: half a surrogate pair,
  or a number beyond every double. It can be passed over but not read. -/
  | unreadable
deriving Inhabited

namespace JsonValue

mutual

/-- Whether no part of the value is unreadable. -/
def isReadable : JsonValue → Bool
  | unreadable => false
  | array items => areReadable items
  | object members => haveReadable members
  | _ => true

/-- Whether no part of some values is unreadable. -/
def areReadable : List JsonValue → Bool
  | [] => true
  | item :: items => isReadable item && areReadable items

/-- Whether no part of some members is unreadable. -/
def haveReadable : List (String × JsonValue) → Bool
  | [] => true
  | (_, item) :: members => isReadable item && haveReadable members

end

mutual

/-- How deep arrays and objects are nested. -/
def depth : JsonValue → Nat
  | array items => depths items + 1
  | object members => memberDepths members + 1
  | _ => 0

/-- The greatest depth among some values. -/
def depths : List JsonValue → Nat
  | [] => 0
  | item :: items => max (depth item) (depths items)

/-- The greatest depth among some members. -/
def memberDepths : List (String × JsonValue) → Nat
  | [] => 0
  | (_, item) :: members => max (depth item) (memberDepths members)

end

/-- A list of texts as an array. -/
def texts (items : List String) : JsonValue :=
  array (items.map text)

/-- A number as a whole number. -/
def nat (n : Nat) : JsonValue :=
  integer n

end JsonValue

end ReportQuery
