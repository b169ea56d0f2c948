import ReportQuery.Json.Number
import ReportQuery.Text.Search

/-!
# Reading JSON text

The grammar of JSON, with nothing but blanks around the value. A string has no
control characters; an escape of half a surrogate pair keeps the text well
formed but leaves it without a value.
-/

namespace ReportQuery.JsonValue

/-- Whether a character may stand between the parts of a document. -/
def isSpace (c : Char) : Bool :=
  c == ' ' || c == '\n' || c == '\t' || c == '\r'

/-- What follows the spaces at the front. -/
def skipSpaces (cs : List Char) : List Char :=
  cs.dropWhile isSpace

/-- The number that four hexadecimal digits denote, and what follows them. -/
def fourHex? : List Char → Option (Nat × List Char)
  | a :: b :: c :: d :: rest =>
    (Numeral.digits? Numeral.hexDigit? 16 [a, b, c, d]).map fun n => (n, rest)
  | _ => none

/-- Whether a number is the first half of a surrogate pair. -/
def isLeadSurrogate (n : Nat) : Bool := 0xD800 ≤ n && n ≤ 0xDBFF

/-- Whether a number is the second half of a surrogate pair. -/
def isTrailSurrogate (n : Nat) : Bool := 0xDC00 ≤ n && n ≤ 0xDFFF

/-- The character that a numeric escape denotes, `none` for half a pair, and
what follows it. -/
def unicodeEscape? (cs : List Char) : Option (Option Char × List Char) := do
  let (lead, rest) ← fourHex? cs
  if isTrailSurrogate lead then some (none, rest)
  else if isLeadSurrogate lead then
    match rest with
    | '\\' :: 'u' :: more =>
      let (trail, after) ← fourHex? more
      if isTrailSurrogate trail then
        some (some (Char.ofNat (0x10000 + (lead - 0xD800) * 0x400 +
          (trail - 0xDC00))), after)
      else some (none, rest)
    | _ => some (none, rest)
  else some (some (Char.ofNat lead), rest)

/-- The character of an escape of one letter. -/
def simpleEscape? : Char → Option Char
  | '"' => some '"'
  | '\\' => some '\\'
  | '/' => some '/'
  | 'b' => some '\x08'
  | 'f' => some '\x0c'
  | 'n' => some '\n'
  | 'r' => some '\r'
  | 't' => some '\t'
  | _ => none

/-- A character of a string, `none` for half a surrogate pair, and what follows
it. -/
def stringChar? : List Char → Option (Option Char × List Char)
  | '\\' :: 'u' :: rest => unicodeEscape? rest
  | '\\' :: c :: rest => (simpleEscape? c).map fun d => (some d, rest)
  | c :: rest => if c.toNat < 0x20 ∨ c = '\\' then none else some (some c, rest)
  | [] => none

/-- The characters of a string after its opening quote, and what follows its
closing quote. The first number bounds the characters read. -/
def stringBody? : Nat → List Char → Option (Option (List Char) × List Char)
  | 0, _ => none
  | fuel + 1, cs =>
    match cs with
    | '"' :: rest => some (some [], rest)
    | _ => do
      let (c, rest) ← stringChar? cs
      let (body, rest) ← stringBody? fuel rest
      some ((do let c ← c; let body ← body; some (c :: body)), rest)

/-- A string after its opening quote; it has no text when an escape is half a
pair. The number bounds its characters. -/
def string? (bound : Nat) (cs : List Char) :
    Option (Option String × List Char) :=
  (stringBody? bound cs).map fun (body, rest) => (body.map String.ofList, rest)

/-- An object, which is unreadable when one of its names is. -/
def ofMembers (members : List (Option String × JsonValue)) : JsonValue :=
  match members.mapM fun (name, value) =>
    name.map fun name => (name, value) with
  | some named => object named
  | none => unreadable

mutual

/-- The value at the front of a text. The first number bounds the steps of
reading, and the characters of a string. -/
def value? : Nat → List Char → Option (JsonValue × List Char)
  | 0, _ => none
  | fuel + 1, cs =>
    match skipSpaces cs with
    | 'n' :: rest => (Text.dropLeading? ['u', 'l', 'l'] rest).map fun rest =>
      (null, rest)
    | 't' :: rest => (Text.dropLeading? ['r', 'u', 'e'] rest).map fun rest =>
      (bool true, rest)
    | 'f' :: rest =>
      (Text.dropLeading? ['a', 'l', 's', 'e'] rest).map fun rest =>
        (bool false, rest)
    | '"' :: rest =>
      (string? fuel rest).map fun (s, rest) =>
        ((s.map text).getD unreadable, rest)
    | '[' :: rest =>
      match skipSpaces rest with
      | ']' :: rest => some (array [], rest)
      | rest => (items? fuel rest).map fun (items, rest) => (array items, rest)
    | '\x7b' :: rest =>
      match skipSpaces rest with
      | '\x7d' :: rest => some (object [], rest)
      | rest => (members? fuel rest).map fun (members, rest) =>
          (ofMembers members, rest)
    | '-' :: rest => number? true rest
    | rest => number? false rest

/-- The items of an array up to its closing bracket. -/
def items? : Nat → List Char → Option (List JsonValue × List Char)
  | 0, _ => none
  | fuel + 1, cs => do
    let (item, rest) ← value? fuel cs
    match skipSpaces rest with
    | ',' :: rest =>
      let (items, rest) ← items? fuel rest
      some (item :: items, rest)
    | ']' :: rest => some ([item], rest)
    | _ => none

/-- The members of an object up to its closing brace. -/
def members? : Nat → List Char →
    Option (List (Option String × JsonValue) × List Char)
  | 0, _ => none
  | fuel + 1, cs =>
    match skipSpaces cs with
    | '"' :: rest => do
      let (name, rest) ← string? fuel rest
      match skipSpaces rest with
      | ':' :: rest =>
        let (value, rest) ← value? fuel rest
        match skipSpaces rest with
        | ',' :: rest =>
          let (members, rest) ← members? fuel rest
          some ((name, value) :: members, rest)
        | '\x7d' :: rest => some ([(name, value)], rest)
        | _ => none
      | _ => none
    | _ => none

end

/-- The value that a text denotes. -/
def ofText? (s : String) : Option JsonValue :=
  match value? (2 * s.length + 2) s.toList with
  | some (value, rest) => if (skipSpaces rest).isEmpty then some value else none
  | none => none

end ReportQuery.JsonValue
