import ReportQuery.Toml.Scalar

/-!
# Tables under construction

The tables of a document are filled line by line. A table comes about in three
ways: a header names it, the header of a table inside it implies it, or a
dotted key does. What a header names is defined once; what is only implied may
be named later; and what a dotted key made is filled by dotted keys alone.
-/

namespace ReportQuery.Toml

/-- How a table came about. -/
inductive Origin where
  /-- A header names the table. -/
  | named
  /-- The header of a table inside it implies the table. -/
  | implied
  /-- A dotted key made the table. -/
  | dotted
deriving DecidableEq, Repr

/-- An entry of a table under construction. -/
inductive Node where
  | value (v : TomlValue)
  | table (origin : Origin) (entries : List (String × Node))
  /-- The tables of a list, of which the last is under construction. -/
  | tables (before : List (List (String × Node))) (last : List (String × Node))

/-- The entries of a table under construction. -/
abbrev Entries := List (String × Node)

namespace Entries

/-- The entry of a name. -/
def find? (entries : Entries) (name : String) : Option Node :=
  entries.lookup name

/-- The entries with another one in the place of one name. -/
def put (entries : Entries) (name : String) (node : Node) : Entries :=
  if (find? entries name).isSome then
    entries.map fun entry => if entry.1 == name then (name, node) else entry
  else entries ++ [(name, node)]

/-- The origin of a table that is made on the way to another. -/
def onTheWay (byDottedKey : Bool) : Origin :=
  if byDottedKey then .dotted else .implied

/-- Change the table at the end of a path, which is made where it is missing.
The change is told how the table came about. -/
def update (byDottedKey : Bool) (change : Origin → Entries → Option Entries) :
    List String → Origin → Entries → Option Entries
  | [], origin, entries => change origin entries
  | name :: path, _, entries =>
    match find? entries name with
    | none =>
      let origin := onTheWay byDottedKey
      (update byDottedKey change path origin []).map fun inner =>
        put entries name (.table origin inner)
    | some (.table origin inner) =>
      if byDottedKey && origin == .named then none
      else
        (update byDottedKey change path origin inner).map fun inner =>
          put entries name (.table origin inner)
    | some (.tables before last) =>
      (update byDottedKey change path .named last).map fun last =>
        put entries name (.tables before last)
    | some (.value _) => none

/-- Give a name a value, in a table that was made by a dotted key or was not. -/
def define (inDotted : Bool) (name : String) (value : TomlValue)
    (origin : Origin) (entries : Entries) : Option Entries :=
  if (origin == .dotted) == inDotted && (find? entries name).isNone then
    some (put entries name (.value value))
  else none

/-- The entries after a key was given a value. The last part of the key is its
name, and the parts before it lead to the table. -/
def assign (entries : Entries) (key : List String) (value : TomlValue) :
    Option Entries :=
  match key.getLast? with
  | some name =>
    let path := key.dropLast
    update true (define (!path.isEmpty) name value) path .named entries
  | none => none

/-- Let a header name a table. -/
def nameTable (name : String) (_ : Origin) (entries : Entries) :
    Option Entries :=
  match find? entries name with
  | none => some (put entries name (.table .named []))
  | some (.table .implied inner) =>
      some (put entries name (.table .named inner))
  | some _ => none

/-- Let a header begin the next table of a list. -/
def nextTable (name : String) (_ : Origin) (entries : Entries) :
    Option Entries :=
  match find? entries name with
  | none => some (put entries name (.tables [] []))
  | some (.tables before last) =>
      some (put entries name (.tables (before ++ [last]) []))
  | some _ => none

/-- The entries after a header, by what it does with the last part of its
key. -/
def header (act : String → Origin → Entries → Option Entries)
    (entries : Entries) (key : List String) : Option Entries :=
  match key.getLast? with
  | some name => update false (act name) key.dropLast .named entries
  | none => none

/-- The entries after a key was given a value under the header of a path. -/
def assignUnder (entries : Entries) (path key : List String)
    (value : TomlValue) : Option Entries :=
  update false (fun _ inner => assign inner key value) path .named entries

end Entries

mutual

/-- The value of an entry. -/
def Node.toValue : Node → TomlValue
  | .value v => v
  | .table _ entries => .table (entriesToValues entries)
  | .tables before last =>
    .array (tablesToValues before ++ [.table (entriesToValues last)])

/-- The values of entries. -/
def entriesToValues : List (String × Node) → List (String × TomlValue)
  | [] => []
  | (name, node) :: entries => (name, node.toValue) :: entriesToValues entries

/-- The values of tables. -/
def tablesToValues : List (List (String × Node)) → List TomlValue
  | [] => []
  | entries :: tables =>
    .table (entriesToValues entries) :: tablesToValues tables

end

/-- The table that entries make up. -/
def Entries.toTable (entries : Entries) : TomlValue :=
  .table (entriesToValues entries)

end ReportQuery.Toml
