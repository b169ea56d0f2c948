import ReportQuery.Numeral
import ReportQuery.Text.Search

/-!
# TOML strings

A string stands between double quotes, with escapes, or between single quotes,
without. Three quotes at either end let it run over several lines. A line break
right after the opening quotes is dropped, every other is a line feed, and a
backslash at the end of a line joins it to the next text.
-/

namespace ReportQuery.Toml

/-- Whether a character may stand in strings and comments. -/
def isPlain (c : Char) : Bool :=
  c == '\t' || (0x20 ≤ c.toNat && c.toNat != 0x7F)

/-- Whether a character is white space inside a line. -/
def isSpace (c : Char) : Bool :=
  c == ' ' || c == '\t'

/-- What follows the white space at the front. -/
def skipSpaces (cs : List Char) : List Char :=
  cs.dropWhile isSpace

/-- What follows a line break at the front. -/
def lineBreak? : List Char → Option (List Char)
  | '\n' :: rest => some rest
  | '\r' :: '\n' :: rest => some rest
  | _ => none

/-- The character of a number of hexadecimal digits at the front, and what
follows. -/
def numberedChar? (length : Nat) (cs : List Char) :
    Option (Char × List Char) := do
  let digits := cs.take length
  let n ← Numeral.digits? Numeral.hexDigit? 16 digits
  if digits.length = length ∧ Nat.isValidChar n then
    some (Char.ofNat n, cs.drop length)
  else none

/-- The character of an escape after its backslash, and what follows. -/
def escape? : List Char → Option (Char × List Char)
  | 'b' :: rest => some ('\x08', rest)
  | 't' :: rest => some ('\t', rest)
  | 'n' :: rest => some ('\n', rest)
  | 'f' :: rest => some ('\x0c', rest)
  | 'r' :: rest => some ('\r', rest)
  | '"' :: rest => some ('"', rest)
  | '\\' :: rest => some ('\\', rest)
  | 'u' :: rest => numberedChar? 4 rest
  | 'U' :: rest => numberedChar? 8 rest
  | _ => none

/-- The characters of a string of one line after its opening quote, and what
follows its closing quote. The first number bounds them. -/
def lineBody? (quote : Char) : Nat → List Char → Option (List Char × List Char)
  | 0, _ => none
  | _, [] => none
  | fuel + 1, c :: cs =>
    if c = quote then some ([], cs)
    else if c = '\\' ∧ quote = '"' then do
      let (d, rest) ← escape? cs
      let (body, rest) ← lineBody? quote fuel rest
      some (d :: body, rest)
    else if isPlain c then
      (lineBody? quote fuel cs).map fun (body, rest) => (c :: body, rest)
    else none

/-- What follows the white space and line breaks at the front. -/
def skipBlankLines : List Char → List Char
  | '\r' :: '\n' :: rest => skipBlankLines rest
  | c :: rest =>
    if isSpace c || c == '\n' then skipBlankLines rest else c :: rest
  | [] => []

/-- What follows a backslash at the end of a line: the white space and line
breaks after it are dropped. -/
def joinedLine? (cs : List Char) : Option (List Char) :=
  (lineBreak? (skipSpaces cs)).map skipBlankLines

/-- How many quotes at the end of a string belong to its text. -/
def innerQuotes (quotes : Nat) : Nat :=
  min quotes 5 - 3

/-- The characters of a string of several lines after its opening quotes, and
what follows its closing quotes. The first number bounds them. -/
def linesBody? (quote : Char) : Nat → List Char → Option (List Char × List Char)
  | 0, _ => none
  | _, [] => none
  | fuel + 1, c :: cs =>
    let quotes := ((c :: cs).takeWhile (· = quote)).length
    if 3 ≤ quotes then
      some (List.replicate (innerQuotes quotes) quote,
        (c :: cs).drop (min quotes 5))
    else if c = '\\' ∧ quote = '"' then
      match joinedLine? cs with
      | some rest => linesBody? quote fuel rest
      | none => do
        let (d, rest) ← escape? cs
        let (body, rest) ← linesBody? quote fuel rest
        some (d :: body, rest)
    else
      match lineBreak? (c :: cs) with
      | some rest => (linesBody? quote fuel rest).map fun (body, rest) =>
          ('\n' :: body, rest)
      | none =>
        if isPlain c then
          (linesBody? quote fuel cs).map fun (body, rest) => (c :: body, rest)
        else none

/-- A string of one line that stands between quotes. -/
def quotedLine? (quote : Char) : List Char → Option (String × List Char)
  | c :: cs =>
    if c = quote then
      (lineBody? quote (cs.length + 1) cs).map fun (body, rest) =>
        (String.ofList body, rest)
    else none
  | [] => none

/-- A string that stands between quotes, one or three of them. -/
def quoted? (quote : Char) (cs : List Char) : Option (String × List Char) :=
  match Text.dropLeading? [quote, quote, quote] cs with
  | some body =>
    let body := (lineBreak? body).getD body
    (linesBody? quote (body.length + 1) body).map fun (body, rest) =>
      (String.ofList body, rest)
  | none => quotedLine? quote cs

end ReportQuery.Toml
