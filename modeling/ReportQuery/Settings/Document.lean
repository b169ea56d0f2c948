import ReportQuery.Settings
import ReportQuery.Toml.Reader

/-!
# Settings documents

Settings are written in TOML, a table for each group. What is missing keeps its
default, what is unknown is passed over, and a value of another kind makes the
document unusable. A group may also be an array of its members in order, and a
moment counts as a group without members.
-/

namespace ReportQuery

namespace TomlValue

/-- The members of a group by name, or by position when the group is an
array. -/
def group? (names : List String) : TomlValue → Option (List (Option TomlValue))
  | table entries => some (names.map fun name => entries.lookup name)
  | array items => some (names.mapIdx fun i _ => items[i]?)
  | moment => some (names.map fun _ => none)
  | _ => none

/-- A member that may be missing. -/
def orDefault {α : Type} (default : α) (read : TomlValue → Option α) :
    Option TomlValue → Option α
  | none => some default
  | some value => read value

/-- A text. -/
def readText? : TomlValue → Option String
  | text s => some s
  | _ => none

/-- A truth value. -/
def readBool? : TomlValue → Option Bool
  | bool b => some b
  | _ => none

/-- A whole number that is not negative. -/
def readNat? : TomlValue → Option Nat
  | integer n => if 0 ≤ n then some n.toNat else none
  | _ => none

end TomlValue

open TomlValue

/-- The service settings that a document form denotes. -/
def ServiceSettings.ofToml? (value : TomlValue) : Option ServiceSettings := do
  let standard : ServiceSettings := {}
  let names := ["account_id", "api_version", "developer_token", "access_token",
    "zero_impressions", "request_timeout_secs", "endpoint"]
  match ← group? names value with
  | [account, version, developer, access, zeroImpressions, timeout, endpoint] =>
    some {
      accountId := ← orDefault standard.accountId readText? account
      apiVersion := ← orDefault standard.apiVersion readText? version
      developerToken := ← orDefault standard.developerToken readText? developer
      accessToken := ← orDefault standard.accessToken readText? access
      zeroImpressions := ← orDefault standard.zeroImpressions readBool?
        zeroImpressions
      timeoutSeconds := ← orDefault standard.timeoutSeconds readNat? timeout
      endpoint := ← orDefault standard.endpoint readText? endpoint }
  | _ => none

/-- The cache settings that a document form denotes. -/
def CacheSettings.ofToml? (environment : Environment) (value : TomlValue) :
    Option CacheSettings := do
  let standard := CacheSettings.default environment
  match ← group? ["enabled", "dir", "max_age_secs", "queue_size"] value with
  | [enabled, directory, maxAge, queueSize] =>
    some {
      enabled := ← orDefault standard.enabled readBool? enabled
      directory := ← orDefault standard.directory readText? directory
      maxAgeSeconds := ← orDefault standard.maxAgeSeconds readNat? maxAge
      queueSize := ← orDefault standard.queueSize readNat? queueSize }
  | _ => none

/-- The catalog settings that a document form denotes. -/
def CatalogSettings.ofToml? (environment : Environment) (value : TomlValue) :
    Option CatalogSettings := do
  match ← group? ["path"] value with
  | [path] =>
    some
      { path := ←
          orDefault (CatalogSettings.default environment).path readText? path }
  | _ => none

/-- The log settings that a document form denotes. -/
def LogSettings.ofToml? (value : TomlValue) : Option LogSettings := do
  let standard : LogSettings := {}
  match ← group? ["level", "format"] value with
  | [level, format] =>
    some {
      level := ← orDefault standard.level readText? level
      format := ← orDefault standard.format readText? format }
  | _ => none

namespace Settings

/-- The settings that a document form denotes. -/
def ofToml? (environment : Environment) (value : TomlValue) :
    Option Settings := do
  match ← group? ["adwords", "cache", "catalog", "logging"] value with
  | [service, cache, catalog, log] =>
    some {
      service := ← orDefault {} ServiceSettings.ofToml? service
      cache := ← orDefault (.default environment)
        (CacheSettings.ofToml? environment) cache
      catalog :=
        ← orDefault (.default environment) (CatalogSettings.ofToml? environment)
          catalog
      log := ← orDefault {} LogSettings.ofToml? log }
  | _ => none

/-- The settings that a document denotes. -/
def ofDocument? (environment : Environment) (document : String) :
    Option Settings :=
  (Toml.ofText? document).bind (ofToml? environment)

end Settings

end ReportQuery
