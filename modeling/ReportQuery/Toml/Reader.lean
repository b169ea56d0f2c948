import ReportQuery.Toml.Scalar
import ReportQuery.Toml.Tables

/-!
# Reading TOML text

A document is a sequence of lines: headers, which name the table that the
following lines fill, and keys with values. Arrays may run over several lines,
inline tables may not. Nothing may be nested too deep.
-/

namespace ReportQuery.Toml

/-- How deep arrays and inline tables may be nested, and how many parts a key
may have. -/
def greatestDepth : Nat := 79

/-- What follows a comment, when there is one. -/
def skipComment : List Char → List Char
  | '#' :: rest => rest.dropWhile isPlain
  | cs => cs

theorem length_skipComment_le (cs : List Char) :
    (skipComment cs).length ≤ cs.length := by
  unfold skipComment
  split
  · exact Nat.le_succ_of_le (List.dropWhile_suffix isPlain).length_le
  · exact Nat.le_refl _

theorem length_lineBreak_lt {cs rest : List Char}
    (h : lineBreak? cs = some rest) : rest.length < cs.length := by
  unfold lineBreak? at h
  split at h
  · cases h
    exact Nat.lt_succ_self _
  · cases h
    exact Nat.lt_succ_of_lt (Nat.lt_succ_self _)
  · cases h

/-- What follows white space, comments and line breaks. -/
def skipGap (cs : List Char) : List Char :=
  match _h : lineBreak? (skipComment (skipSpaces cs)) with
  | some rest => skipGap rest
  | none => skipSpaces cs
termination_by cs.length
decreasing_by
  have hbreak := length_lineBreak_lt _h
  have hcomment := length_skipComment_le (skipSpaces cs)
  have hspaces : (skipSpaces cs).length ≤ cs.length :=
    (List.dropWhile_suffix isSpace).length_le
  omega

/-- Whether a character may stand in a key without quotes. -/
def isBare (c : Char) : Bool :=
  c.isAlphanum || c == '_' || c == '-'

/-- A part of a key, and what follows. -/
def keyPart? (cs : List Char) : Option (String × List Char) :=
  match cs with
  | '"' :: _ => quotedLine? '"' cs
  | '\'' :: _ => quotedLine? '\'' cs
  | _ =>
    let name := cs.takeWhile isBare
    if name.isEmpty then none
    else some (String.ofList name, cs.dropWhile isBare)

/-- The parts of a key, and what follows. The number bounds them. -/
def key? : Nat → List Char → Option (List String × List Char)
  | 0, _ => none
  | depth + 1, cs => do
    let (part, rest) ← keyPart? (skipSpaces cs)
    match skipSpaces rest with
    | '.' :: rest =>
      let (parts, rest) ← key? depth rest
      some (part :: parts, rest)
    | rest => some ([part], rest)

mutual

/-- The value at the front. The numbers bound the steps of reading and the
nesting. -/
def value? : Nat → Nat → List Char → Option (TomlValue × List Char)
  | 0, _, _ => none
  | fuel + 1, depth, cs =>
    match cs with
    | '"' :: _ => (quoted? '"' cs).map fun (s, rest) => (.text s, rest)
    | '\'' :: _ => (quoted? '\'' cs).map fun (s, rest) => (.text s, rest)
    | '[' :: rest =>
      if depth = 0 then none
      else (items? fuel (depth - 1) rest).map fun (items, rest) =>
        (.array items, rest)
    | '\x7b' :: rest =>
      if depth = 0 then none
      else
        match skipSpaces rest with
        | '\x7d' :: rest => some (.table [], rest)
        | rest => (members? fuel (depth - 1) [] rest).map fun (entries, rest) =>
          (entries.toTable, rest)
    | 't' :: rest =>
      (Text.dropLeading? ['r', 'u', 'e'] rest).map fun rest =>
        (.bool true, rest)
    | 'f' :: rest =>
      (Text.dropLeading? ['a', 'l', 's', 'e'] rest).map fun rest =>
        (.bool false, rest)
    | _ => numberOrMoment? cs

/-- The items of an array up to its closing bracket. -/
def items? : Nat → Nat → List Char → Option (List TomlValue × List Char)
  | 0, _, _ => none
  | fuel + 1, depth, cs =>
    match skipGap cs with
    | ']' :: rest => some ([], rest)
    | cs => do
      let (item, rest) ← value? fuel depth cs
      match skipGap rest with
      | ',' :: rest =>
        let (items, rest) ← items? fuel depth rest
        some (item :: items, rest)
      | ']' :: rest => some ([item], rest)
      | _ => none

/-- The entries of an inline table up to its closing brace, after those
before. -/
def members? : Nat → Nat → Entries → List Char → Option (Entries × List Char)
  | 0, _, _, _ => none
  | fuel + 1, depth, before, cs => do
    let (key, rest) ← key? greatestDepth cs
    match rest with
    | '=' :: rest =>
      let (value, rest) ← value? fuel depth (skipSpaces rest)
      let entries ← before.assign key value
      match skipSpaces rest with
      | ',' :: rest => members? fuel depth entries rest
      | '\x7d' :: rest => some (entries, rest)
      | _ => none
    | _ => none

end

/-- A line of a document that says something. -/
inductive Line where
  | tableHeader (key : List String)
  /-- The header of the next table of a list. -/
  | listHeader (key : List String)
  | assignment (key : List String) (value : TomlValue)

/-- The header at the front, after its opening brackets, and what follows its
closing ones. -/
def header? (closing : List Char) (line : List String → Line) (cs : List Char) :
    Option (Line × List Char) := do
  let (key, rest) ← key? greatestDepth cs
  (Text.dropLeading? closing rest).map fun rest => (line key, rest)

/-- The line at the front, and what follows its last part. The number bounds
the steps of reading a value. -/
def line? (bound : Nat) (cs : List Char) : Option (Line × List Char) :=
  match cs with
  | '[' :: '[' :: rest => header? [']', ']'] .listHeader rest
  | '[' :: rest => header? [']'] .tableHeader rest
  | _ => do
    let (key, rest) ← key? greatestDepth cs
    match rest with
    | '=' :: rest =>
      let (value, rest) ← value? bound greatestDepth (skipSpaces rest)
      some (.assignment key value, rest)
    | _ => none

/-- What follows the end of a line. -/
def endOfLine? (cs : List Char) : Option (List Char) :=
  match skipComment (skipSpaces cs) with
  | [] => some []
  | rest => lineBreak? rest

/-- The lines of a document. The numbers bound the steps of reading a value,
and the lines. -/
def lines? (bound : Nat) : Nat → List Char → Option (List Line)
  | 0, cs => if cs.isEmpty then some [] else none
  | _, [] => some []
  | fuel + 1, cs =>
    match endOfLine? cs with
    | some rest => lines? bound fuel rest
    | none => do
      let (line, rest) ← line? bound (skipSpaces cs)
      let lines ← lines? bound fuel (← endOfLine? rest)
      some (line :: lines)

/-- A document under construction: its entries, and the table that is being
filled. -/
structure Draft where
  entries : Entries := []
  path : List String := []

/-- The document after another line. -/
def Draft.addLine (draft : Draft) : Line → Option Draft
  | .tableHeader key =>
    (Entries.header Entries.nameTable draft.entries key).map fun entries =>
      ⟨entries, key⟩
  | .listHeader key =>
    (Entries.header Entries.nextTable draft.entries key).map fun entries =>
      ⟨entries, key⟩
  | .assignment key value =>
    (draft.entries.assignUnder draft.path key value).map fun entries =>
      { draft with entries }

/-- The table that a document denotes. -/
def ofText? (document : String) : Option TomlValue := do
  let cs := document.toList
  let cs := (Text.dropLeading? ['\uFEFF'] cs).getD cs
  let lines ← lines? (2 * cs.length + 2) cs.length cs
  let draft ← lines.foldlM Draft.addLine {}
  some draft.entries.toTable

end ReportQuery.Toml
