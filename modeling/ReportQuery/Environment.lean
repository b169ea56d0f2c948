import ReportQuery.Text.Search

/-!
# The environment of a run

The variables that a run is given, the home directory among them, and where its
files are by convention. Paths are texts; joining to an absolute path gives
that path.
-/

namespace ReportQuery

namespace Path

/-- Whether a path starts at the root. -/
def isAbsolute (path : String) : Bool :=
  Text.startsWith ['/'] path.toList

/-- The path of `name` inside `directory`. -/
def join (directory name : String) : String :=
  if isAbsolute name || directory.isEmpty then name
  else if Text.endsWith ['/'] directory.toList then directory ++ name
  else directory ++ "/" ++ name

/-- The parts of a path: empty ones and the current directory are left out, and
a parent directory takes back the part before it. -/
def parts (path : String) : List String :=
  ((path.splitOn "/").foldl
    (fun done part =>
      if part = "" ∨ part = "." then done
      else if part = ".." then done.tail
      else part :: done)
    []).reverse

/-- The absolute path of some parts, the innermost first. -/
def ofParts (parts : List String) : String :=
  "/" ++ Text.join "/" parts.reverse

/-- The absolute path that a path means in a directory. -/
def resolve (directory path : String) : String :=
  ofParts (parts (join directory path)).reverse

end Path

/-- The variables of a run. -/
structure Environment where
  bindings : List (String × String) := []
deriving DecidableEq, Repr

namespace Environment

/-- The variables that matter to a run. -/
def variableNames : List String :=
  ["HOME", "XDG_CACHE_HOME", "XDG_CONFIG_HOME", "AWQL_ACCOUNT_ID",
    "AWQL_API_VERSION", "AWQL_DEVELOPER_TOKEN", "AWQL_ACCESS_TOKEN",
    "AWQL_CACHE_DIR", "AWQL_CATALOG", "AWQL_LOG_LEVEL", "AWQL_LOG_FORMAT"]

/-- The value of a variable. -/
def get? (environment : Environment) (name : String) : Option String :=
  environment.bindings.lookup name

/-- The home directory. -/
def home? (environment : Environment) : Option String :=
  (environment.get? "HOME").filter fun home => !home.isEmpty

/-- The directory that a variable names with an absolute path, else one in the
home directory. -/
def directory? (environment : Environment) (variableName inHome : String) :
    Option String :=
  match (environment.get? variableName).filter Path.isAbsolute with
  | some directory => some directory
  | none => environment.home?.map fun home => Path.join home inHome

/-- The directory for cached files. -/
def cacheDirectory? (environment : Environment) : Option String :=
  environment.directory? "XDG_CACHE_HOME" ".cache"

/-- The directory for settings. -/
def settingsDirectory? (environment : Environment) : Option String :=
  environment.directory? "XDG_CONFIG_HOME" ".config"

/-- A path with a leading tilde replaced by the home directory. -/
def expandHome (environment : Environment) (path : String) : String :=
  match Text.dropLeading? ['~', '/'] path.toList, environment.home? with
  | some rest, some home => Path.join home (String.ofList rest)
  | _, _ => path

end Environment

end ReportQuery
