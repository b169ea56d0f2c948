import ReportQuery.Files
import ReportQuery.Settings.Document
import ReportQuery.Text.Quoted

/-!
# Loading settings

Settings come from a file, and the environment overrides them. When no file is
named, the first usable one of two is taken: a file among the user's settings,
or one in the current directory.
-/

namespace ReportQuery

/-- Why a file gives no settings. -/
inductive SettingsError where
  /-- The file cannot be read. -/
  | unreadable (path : String) (fault : FileFault)
  /-- The file is no settings document. -/
  | malformed (path : String)
deriving DecidableEq, Repr

/-- The message of the error. -/
def SettingsError.message : SettingsError → String
  | unreadable path fault =>
    "Failed to read config file " ++ Text.quoted path ++ ": " ++ fault.message
  | malformed path => "Failed to parse config file " ++ Text.quoted path ++
      ": TOML parse error"

namespace Settings

/-- The settings of a file. -/
def load (environment : Environment) (files : Files) (path : String) :
    Except SettingsError Settings :=
  match files.read path with
  | .error fault => .error (.unreadable path fault)
  | .ok document =>
    match ofDocument? environment document with
    | some settings => .ok settings
    | none => .error (.malformed path)

/-- The settings of a file, overridden by the environment. -/
def loadOverridden (environment : Environment) (files : Files) (path : String) :
    Except SettingsError Settings :=
  (load environment files path).map fun settings =>
    settings.override environment

/-- The files that settings are looked for in, the first first. -/
def usualFiles (environment : Environment) : List String :=
  (environment.settingsFile? "config.toml").toList ++ ["./awql.toml"]

/-- The settings when no file is named. -/
def loadUsual (environment : Environment) (files : Files) : Settings :=
  ((usualFiles environment).findSome? fun path =>
    (loadOverridden environment files path).toOption).getD
      (ofEnvironment environment)

end Settings

end ReportQuery
