import ReportQuery.Text.Search

/-!
# The settings template

A settings document with every default spelled out, for users to start from.
-/

namespace ReportQuery.Settings

/-- The lines of the template. -/
def templateLines : List String :=
  ["# AWQL Configuration",
    "#",
    "# Environment variables override these settings:",
    "# - AWQL_ACCOUNT_ID",
    "# - AWQL_API_VERSION",
    "# - AWQL_DEVELOPER_TOKEN",
    "# - AWQL_ACCESS_TOKEN",
    "# - AWQL_CACHE_DIR (also enables the cache)",
    "# - AWQL_CATALOG",
    "# - AWQL_LOG_LEVEL",
    "# - AWQL_LOG_FORMAT",
    "",
    "[adwords]",
    "# Client customer id, e.g. \"123-456-7890\"",
    "account_id = \"\"",
    "",
    "# Reporting API version",
    "api_version = \"v201809\"",
    "",
    "# Developer token and OAuth2 access token",
    "developer_token = \"\"",
    "access_token = \"\"",
    "",
    "# Include rows without impressions",
    "zero_impressions = false",
    "",
    "# Report download timeout in seconds",
    "request_timeout_secs = 600",
    "",
    "# Report download endpoint, the API version is appended",
    "endpoint = \"https://adwords.google.com/api/adwords/reportdownload/\"",
    "",
    "[cache]",
    "# Keep downloaded reports on disk",
    "enabled = false",
    "",
    "# Directory of cached reports",
    "dir = \"~/.cache/awql\"",
    "",
    "# Maximum age of a cached report in seconds",
    "max_age_secs = 86400",
    "",
    "# Pending cache writes before new ones are dropped",
    "queue_size = 32",
    "",
    "[catalog]",
    "# JSON document describing reports and views",
    "path = \"~/.config/awql/catalog.json\"",
    "",
    "[logging]",
    "# Log level: trace, debug, info, warn, error",
    "level = \"info\"",
    "",
    "# Log format: pretty (for development) or json (for production)",
    "format = \"pretty\""]

/-- The template as a text, with a line break after every line. -/
def template : String :=
  Text.join "" (templateLines.map fun line => line ++ "\n")

end ReportQuery.Settings
