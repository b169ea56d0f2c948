import ReportQuery.Json
import ReportQuery.Numeral
import ReportQuery.Text.Search

/-!
# Writing JSON text

Every item and member stands on a line of its own, two spaces deeper than what
holds it. Strings escape the quote, the backslash and the control characters,
and nothing else.
-/

namespace ReportQuery.JsonValue

/-- The hexadecimal digits of a control character, four of them. -/
def controlDigits (n : Nat) : List Char :=
  let digits := Nat.toDigits 16 n
  List.replicate (4 - digits.length) '0' ++ digits

/-- How a character is written in a string. -/
def escapeChar (c : Char) : List Char :=
  match c with
  | '"' => ['\\', '"']
  | '\\' => ['\\', '\\']
  | '\x08' => ['\\', 'b']
  | '\x0c' => ['\\', 'f']
  | '\n' => ['\\', 'n']
  | '\r' => ['\\', 'r']
  | '\t' => ['\\', 't']
  | c => if c.toNat < 0x20 then '\\' :: 'u' :: controlDigits c.toNat else [c]

/-- A string between quotes. -/
def stringText (s : String) : String :=
  String.ofList ('"' :: s.toList.flatMap escapeChar ++ ['"'])

/-- The start of a line inside `level` values. -/
def indent (level : Nat) : String :=
  "\n" ++ Text.replicate (2 * level) ' '

/-- Entries between brackets, each on its line, inside `level` values. -/
def bracketed (opening closing : String) (level : Nat) (entries : List String) :
    String :=
  if entries.isEmpty then opening ++ closing
  else
    opening ++ Text.join ","
      (entries.map fun entry => indent (level + 1) ++ entry) ++
      indent level ++ closing

mutual

/-- The text of a value that stands inside `level` others. -/
def write (level : Nat) : JsonValue → String
  | null => "null"
  | bool b => if b then "true" else "false"
  | integer n => Numeral.ofInt n
  | fraction => "null"
  | text s => stringText s
  | array items => bracketed "[" "]" level (writeItems (level + 1) items)
  | object members =>
      bracketed "\x7b" "\x7d" level (writeMembers (level + 1) members)
  | unreadable => "null"

/-- The items of an array. -/
def writeItems (level : Nat) : List JsonValue → List String
  | [] => []
  | item :: items => write level item :: writeItems level items

/-- The members of an object, each name before its value. -/
def writeMembers (level : Nat) : List (String × JsonValue) → List String
  | [] => []
  | (name, value) :: members =>
    (stringText name ++ ": " ++ write level value) :: writeMembers level members

end

/-- The text of a value. -/
def toText (value : JsonValue) : String :=
  write 0 value

end ReportQuery.JsonValue
