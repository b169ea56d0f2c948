import ReportQuery.Environment
import ReportQuery.Service.Request

/-!
# Settings

What a run can be told: whom it asks for reports, how it caches them, where its
catalog is and how it logs. Variables of the environment override what is set
otherwise; naming a directory for the cache also turns the cache on.
-/

namespace ReportQuery

/-- How reports are cached. -/
structure CacheSettings where
  enabled : Bool := false
  directory : String
  maxAgeSeconds : Nat := 86400
  /-- How many reports may wait to be stored. -/
  queueSize : Nat := 32
deriving DecidableEq, Repr

/-- Where the catalog is. -/
structure CatalogSettings where
  path : String
deriving DecidableEq, Repr

/-- What is logged, and how. -/
structure LogSettings where
  level : String := "info"
  format : String := "pretty"
deriving DecidableEq, Repr

/-- The settings of a run. -/
structure Settings where
  service : ServiceSettings := {}
  cache : CacheSettings
  catalog : CatalogSettings
  log : LogSettings := {}
deriving DecidableEq, Repr

namespace Environment

/-- Where reports are cached unless something else is said. -/
def defaultCacheDirectory (environment : Environment) : String :=
  match environment.cacheDirectory? with
  | some directory => Path.join directory "awql"
  | none => "./awql_cache"

/-- A file among the settings of the program. -/
def settingsFile? (environment : Environment) (name : String) : Option String :=
  environment.settingsDirectory?.map fun directory =>
    Path.join (Path.join directory "awql") name

/-- Where the catalog is unless something else is said. -/
def defaultCatalogPath (environment : Environment) : String :=
  (environment.settingsFile? "catalog.json").getD "./catalog.json"

end Environment

namespace CacheSettings

/-- How reports are cached unless something else is said. -/
def default (environment : Environment) : CacheSettings :=
  { directory := environment.defaultCacheDirectory }

/-- The directory of the cache. -/
def path (cache : CacheSettings) (environment : Environment) : String :=
  environment.expandHome cache.directory

end CacheSettings

namespace CatalogSettings

/-- Where the catalog is unless something else is said. -/
def default (environment : Environment) : CatalogSettings :=
  { path := environment.defaultCatalogPath }

/-- The path of the catalog file. -/
def file (catalog : CatalogSettings) (environment : Environment) : String :=
  environment.expandHome catalog.path

end CatalogSettings

namespace Settings

/-- The settings when nothing is said. -/
def default (environment : Environment) : Settings :=
  { cache := .default environment, catalog := .default environment }

/-- The service settings with the overrides of the environment. -/
def overrideService (service : ServiceSettings) (environment : Environment) :
    ServiceSettings :=
  { service with
    accountId := (environment.get? "AWQL_ACCOUNT_ID").getD service.accountId
    apiVersion := (environment.get? "AWQL_API_VERSION").getD service.apiVersion
    developerToken := (environment.get? "AWQL_DEVELOPER_TOKEN").getD
      service.developerToken
    accessToken := (environment.get? "AWQL_ACCESS_TOKEN").getD
      service.accessToken }

/-- The cache settings with the overrides of the environment. -/
def overrideCache (cache : CacheSettings) (environment : Environment) :
    CacheSettings :=
  match environment.get? "AWQL_CACHE_DIR" with
  | some directory => { cache with directory, enabled := true }
  | none => cache

/-- The settings with the overrides of the environment. -/
def override (settings : Settings) (environment : Environment) : Settings :=
  { service := overrideService settings.service environment
    cache := overrideCache settings.cache environment
    catalog :=
      { path := (environment.get? "AWQL_CATALOG").getD settings.catalog.path }
    log :=
      { level := (environment.get? "AWQL_LOG_LEVEL").getD settings.log.level
        format := (environment.get? "AWQL_LOG_FORMAT").getD
          settings.log.format } }

/-- The settings that the environment alone gives. -/
def ofEnvironment (environment : Environment) : Settings :=
  (default environment).override environment

end Settings

end ReportQuery
