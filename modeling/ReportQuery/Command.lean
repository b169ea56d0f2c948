import ReportQuery.Cache.Schedule
import ReportQuery.Catalog.Document
import ReportQuery.Command.Display
import ReportQuery.Command.Options
import ReportQuery.Service.Answer
import ReportQuery.Settings.Loading
import ReportQuery.Settings.Template

/-!
# The command

A run reads its settings and its catalog, parses the whole script and runs one
statement after the other, up to the first error. It prints what each statement
gives. A stored view is saved with the catalog at once. A report goes to the
cache, whose worker takes its steps beside the statements; a run that goes
through waits for it at the end.
-/

namespace ReportQuery

/-- What a run finds. -/
structure Surroundings where
  environment : Environment
  files : Files
  /-- The stored reports of cache directories, by absolute path. -/
  caches : List (String × List StoredFile) := []
  /-- The text that a run reads when its arguments hold no script. -/
  input : String := ""
  today : Day
  /-- The time in nanoseconds. -/
  now : Int
  /-- When the worker of the cache takes its steps. -/
  schedule : Schedule := .steady now

/-- Why a run fails. -/
inductive CommandError where
  | settings (error : SettingsError)
  /-- There is no catalog in the file of this path. -/
  | catalog (path : String)
  /-- The directory of the cache cannot be made. -/
  | cache (fault : FileFault)
  | query (error : QueryError)
deriving DecidableEq, Repr

/-- The message of the error. -/
def CommandError.message : CommandError → String
  | settings error => error.message
  | catalog path => "loading catalog " ++ Text.quoted path
  | cache fault => "CacheError.IO (" ++ fault.message ++ ")"
  | query error => error.message

/-- What a run leaves behind. -/
structure Execution where
  /-- The status that the command ends with. -/
  code : Nat := 0
  output : String := ""
  error : Option CommandError := none
  files : Files
  caches : List (String × List StoredFile)
  /-- The requests that were made, in their order. -/
  requests : List Request := []

namespace Command

/-- The status after a misuse of the arguments. -/
def misuseCode : Nat := 2

/-- The status after an error. -/
def failureCode : Nat := 1

/-- The name and version of the program. -/
def versionText : String := "awql 0.1.0\n"

/-- How the program is used. -/
def helpText : String :=
  ResultSet.ofLines
    ["Query advertising reports with a SQL-like language",
      "",
      "Usage: awql [OPTIONS] [config]",
      "",
      "  -e, --execute <STATEMENTS>     Statements to run instead of those " ++
        "of the standard input",
      "      --config <FILE>            Settings file",
      "      --catalog <FILE>           Catalog document",
      "  -i, --id <ACCOUNT>             Account whose reports are asked for",
      "  -V, --api-version <VERSION>    Version of the service",
      "  -D, --developer-token <TOKEN>  Developer token",
      "  -T, --access-token <TOKEN>     Access token",
      "  -c, --cache                    Serve repeated reports from the cache",
      "  -z, --zero-impressions         Include rows without impressions",
      "  -v, --verbose                  Log more",
      "  -B, --batch                    Print values with tabs between them",
      "  -h, --help                     Print this text",
      "      --version                  Print the version"]

/-- The settings with what the arguments say. -/
def applyOptions (settings : Settings) (options : Options)
    (environment : Environment) : Settings :=
  { settings with
    service :=
      { settings.service with
        accountId := options.accountId.getD settings.service.accountId
        apiVersion := options.apiVersion.getD settings.service.apiVersion
        developerToken :=
          options.developerToken.getD settings.service.developerToken
        accessToken := options.accessToken.getD settings.service.accessToken
        zeroImpressions := settings.service.zeroImpressions ||
          options.zeroImpressions }
    cache := { settings.cache with enabled := settings.cache.enabled ||
      options.cache }
    catalog :=
      { path := (options.catalog.map environment.expandHome).getD
          settings.catalog.path } }

/-- The settings of a run. -/
def settings (environment : Environment) (files : Files) (options : Options) :
    Except SettingsError Settings :=
  let loaded := match options.settingsFile with
    | some path => Settings.loadOverridden environment files path
    | none => .ok (Settings.loadUsual environment files)
  loaded.map fun settings => applyOptions settings options environment

/-- The files that the settings of a run may come from. -/
def settingsFiles (environment : Environment) (options : Options) :
    List String :=
  match options.settingsFile with
  | some path => [path]
  | none => Settings.usualFiles environment

/-- What a run works with once its settings and its catalog are read. -/
structure Setup where
  settings : Settings
  catalogPath : String
  catalog : Catalog

/-- Why the directory of the cache cannot be made, when it is needed. -/
def cacheFault? (surroundings : Surroundings) (settings : Settings) :
    Option FileFault :=
  if settings.cache.enabled then
    surroundings.files.obstacle? (settings.cache.path surroundings.environment)
  else none

/-- The setup of a run. -/
def setup (surroundings : Surroundings) (options : Options) :
    Except CommandError Setup :=
  match settings surroundings.environment surroundings.files options with
  | .error error => .error (.settings error)
  | .ok settings =>
    let catalogPath := settings.catalog.file surroundings.environment
    match (surroundings.files.read catalogPath).toOption.bind
      Catalog.ofDocument? with
    | none => .error (.catalog catalogPath)
    | some catalog =>
      match cacheFault? surroundings settings with
      | some fault => .error (.cache fault)
      | none => .ok { settings, catalogPath, catalog }

/-- The directory of the cache. -/
def cacheDirectory (surroundings : Surroundings) (settings : Settings) :
    String :=
  surroundings.files.locate (settings.cache.path surroundings.environment)

/-- The cache of a run, when it is enabled. -/
def openCache (surroundings : Surroundings) (setup : Setup) :
    Option TurnCache :=
  let cache := setup.settings.cache
  if cache.enabled then
    let store : ReportStore :=
      { maxAge := cache.maxAgeSeconds * ReportStore.second
        files :=
          (surroundings.caches.lookup
            (cacheDirectory surroundings setup.settings)).getD [] }
    some (TurnCache.ofStore store cache.queueSize surroundings.now)
  else none

/-- The session of a run. -/
def openSession (surroundings : Surroundings) (setup : Setup) :
    Session TurnCache :=
  { catalog := setup.catalog
    account := setup.settings.service.accountId
    today := surroundings.today
    cache := openCache surroundings setup }

/-- Whether a statement stored a view. -/
def storedView : Outcome → Bool
  | .viewStored _ => true
  | .rows _ => false

/-- The files after statements: a stored view saves the catalog. -/
def saveCatalog (surroundings : Surroundings) (setup : Setup)
    (reply : Session.ScriptReply TurnCache) : Files :=
  if reply.outcomes.any storedView then
    surroundings.files.write setup.catalogPath reply.session.catalog.document
  else surroundings.files

/-- The stored reports when a run ends after statements. -/
def saveCache (surroundings : Surroundings) (setup : Setup)
    (reply : Session.ScriptReply TurnCache) : List (String × List StoredFile) :=
  match reply.session.cache with
  | some cache =>
    let directory := cacheDirectory surroundings setup.settings
    let closed :=
      cache.close surroundings.schedule reply.error.isSome surroundings.now
    (directory, closed.store.files) :: surroundings.caches.filter fun entry =>
      entry.1 != directory
  | none => surroundings.caches

/-- A run that fails before it changes anything. -/
def fail (surroundings : Surroundings) (error : CommandError) : Execution :=
  { code := failureCode, error := some error, files := surroundings.files
    caches := surroundings.caches }

/-- What the statements of a script give, each at its turn. -/
def scriptReply (surroundings : Surroundings) (transport : Transport)
    (setup : Setup) (statements : List Statement) :
    Session.ScriptReply TurnCache :=
  (openSession surroundings setup).runInTurn
    (setup.settings.service.fetch transport)
    (fun n cache => cache.next (surroundings.schedule.turn n)) statements

/-- Run the statements of a script. -/
def runStatements (surroundings : Surroundings) (transport : Transport)
    (setup : Setup) (batch : Bool) (statements : List Statement) : Execution :=
  let reply := scriptReply surroundings transport setup statements
  { code := if reply.error.isSome then failureCode else 0
    output := Text.join "" (reply.outcomes.map (Outcome.print batch))
    error := reply.error.map CommandError.query
    files := saveCatalog surroundings setup reply
    caches := saveCache surroundings setup reply
    requests := setup.settings.service.requests reply.asked }

/-- Run a script. -/
def runScript (surroundings : Surroundings) (transport : Transport)
    (options : Options) : Execution :=
  match setup surroundings options with
  | .error error => fail surroundings error
  | .ok setup =>
    match parseScript (options.script.getD surroundings.input) with
    | .error error => fail surroundings (.query (.parse error))
    | .ok statements =>
      runStatements surroundings transport setup options.batch statements

/-- Run the command. -/
def run (surroundings : Surroundings) (transport : Transport)
    (arguments : List String) : Execution :=
  let printing (output : String) (code : Nat) : Execution :=
    { code, output, files := surroundings.files, caches := surroundings.caches }
  match Invocation.ofArguments arguments with
  | .run options => runScript surroundings transport options
  | .showTemplate => printing Settings.template 0
  | .showHelp => printing helpText 0
  | .showVersion => printing versionText 0
  | .misuse => printing "" misuseCode

end Command

end ReportQuery
