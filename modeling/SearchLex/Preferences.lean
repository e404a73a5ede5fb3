import SearchLex.Log.Level
import SearchLex.Scan.Keyword
import SearchLex.Text.Blank

/-! User preferences. Each has an environment variable and a built-in default; a variable
that is not set, or does not read as a value, leaves the default. -/

namespace SearchLex

/-- The environment: the value of each variable that is set. -/
abbrev Environment := String → Option String

namespace Fallback

/-- The fallback of a name. White space around it, its case, and how its two words are
joined do not matter. -/
def parse (text : String) : Except String Fallback :=
  match Text.lowerCase (Text.trim text) with
  | "feed_through" | "feed-through" | "feedthrough" => .ok .feedThrough
  | "legacy" => .ok .legacy
  | other => .error ("Unknown keyword fallback: " ++ other)

def datum (fallback : Fallback) : Datum := .text fallback.name

def options : List (String × Fallback) :=
  [("feed_through", .feedThrough), ("legacy", .legacy)]

/-- The fallback of plain data. -/
def ofDatum (format : Format) : Datum → Decoded Fallback := Decode.choice format options

end Fallback

namespace Environment

/-- A truth value is one of two words. -/
def parseBool : String → Option Bool
  | "true" => some true
  | "false" => some false
  | _ => none

/-- The value of a variable without white space around it, or a default. -/
def read (environment : Environment) (parse : String → Option α) (name : String)
    (default : α) : α :=
  ((environment name).bind fun value => parse (Text.trim value)).getD default

def boolean (environment : Environment) (name : String) (default : Bool) : Bool :=
  environment.read parseBool name default

end Environment

/-- How queries are tokenized. -/
structure SearchPreferences where
  fallback : Fallback
  /-- Whether the limits on length and token count hold. -/
  enforceLimits : Bool
  /-- Whether a logged failure says where it lies. -/
  includePositions : Bool
  /-- Whether each success is logged with its token counts. -/
  logSummary : Bool
  deriving DecidableEq, Repr

namespace SearchPreferences

def ofEnvironment (environment : Environment) : SearchPreferences where
  fallback :=
    environment.read (fun text => (Fallback.parse text).toOption)
      "ODATA_SEARCH_KEYWORD_FALLBACK" .feedThrough
  enforceLimits := environment.boolean "ODATA_SEARCH_ENFORCE_LIMITS" true
  includePositions := environment.boolean "ODATA_SEARCH_INCLUDE_POSITIONS" true
  logSummary := environment.boolean "ODATA_SEARCH_LOG_TOKEN_SUMMARY" false

def datum (preferences : SearchPreferences) : Datum :=
  .record [("keyword_fallback", preferences.fallback.datum),
    ("enforce_limits", .boolean preferences.enforceLimits),
    ("include_position_in_errors", .boolean preferences.includePositions),
    ("log_token_summary", .boolean preferences.logSummary)]

/-- Takes up one field; unknown fields are ignored. -/
def take (format : Format) (preferences : SearchPreferences) (field : String × Datum) :
    Decoded SearchPreferences := do
  match field.1 with
  | "keyword_fallback" =>
    return { preferences with fallback := ← Fallback.ofDatum format field.2 }
  | "enforce_limits" =>
    return { preferences with enforceLimits := ← Decode.boolean field.2 }
  | "include_position_in_errors" =>
    return { preferences with includePositions := ← Decode.boolean field.2 }
  | "log_token_summary" => return { preferences with logSummary := ← Decode.boolean field.2 }
  | _ => return preferences

/-- The preferences of plain data; what is not there comes from the defaults. -/
def ofDatum (format : Format) (defaults : SearchPreferences) (datum : Datum) :
    Decoded SearchPreferences := do
  match ← Decode.layout "SearchPreferences" datum with
  | .byName fields => fields.foldlM (take format) defaults
  | .byOrder elements =>
    let (fallback, rest) ←
      Decode.elementOr (Fallback.ofDatum format) defaults.fallback elements
    let (enforceLimits, rest) ← Decode.elementOr Decode.boolean defaults.enforceLimits rest
    let (includePositions, rest) ←
      Decode.elementOr Decode.boolean defaults.includePositions rest
    let (logSummary, rest) ← Decode.elementOr Decode.boolean defaults.logSummary rest
    Decode.surplus format elements rest
    return { fallback, enforceLimits, includePositions, logSummary }

end SearchPreferences

/-- How events are logged. -/
structure LoggingPreferences where
  /-- Whether console events are JSON lines. -/
  structured : Bool
  /-- Whether events go to the console at all. -/
  console : Bool
  minLevel : Log.Level
  deriving DecidableEq, Repr

namespace LoggingPreferences

def ofEnvironment (environment : Environment) : LoggingPreferences where
  structured := environment.boolean "ODATA_SEARCH_LOGGING_USE_STRUCTURED" false
  console := environment.boolean "ODATA_SEARCH_LOGGING_ENABLE_CONSOLE" true
  minLevel :=
    environment.read (fun text => (Log.Level.parse text).toOption)
      "ODATA_SEARCH_LOGGING_MIN_LEVEL" .warning

def datum (preferences : LoggingPreferences) : Datum :=
  .record [("use_structured_logging", .boolean preferences.structured),
    ("enable_console_logging", .boolean preferences.console),
    ("min_log_level", preferences.minLevel.datum)]

/-- Takes up one field; unknown fields are ignored. -/
def take (format : Format) (preferences : LoggingPreferences) (field : String × Datum) :
    Decoded LoggingPreferences := do
  match field.1 with
  | "use_structured_logging" =>
    return { preferences with structured := ← Decode.boolean field.2 }
  | "enable_console_logging" =>
    return { preferences with console := ← Decode.boolean field.2 }
  | "min_log_level" =>
    return { preferences with minLevel := ← Log.Level.ofDatum format field.2 }
  | _ => return preferences

/-- The preferences of plain data; what is not there comes from the defaults. -/
def ofDatum (format : Format) (defaults : LoggingPreferences) (datum : Datum) :
    Decoded LoggingPreferences := do
  match ← Decode.layout "LoggingPreferences" datum with
  | .byName fields => fields.foldlM (take format) defaults
  | .byOrder elements =>
    let (structured, rest) ← Decode.elementOr Decode.boolean defaults.structured elements
    let (console, rest) ← Decode.elementOr Decode.boolean defaults.console rest
    let (minLevel, rest) ←
      Decode.elementOr (Log.Level.ofDatum format) defaults.minLevel rest
    Decode.surplus format elements rest
    return { structured, console, minLevel }

end LoggingPreferences

/-- All preferences of a run. -/
structure Configuration where
  search : SearchPreferences
  logging : LoggingPreferences
  deriving DecidableEq, Repr

namespace Configuration

def ofEnvironment (environment : Environment) : Configuration where
  search := .ofEnvironment environment
  logging := .ofEnvironment environment

def datum (configuration : Configuration) : Datum :=
  .record [("search", configuration.search.datum), ("logging", configuration.logging.datum)]

/-- Takes up one section; unknown sections are ignored. A section starts from the
environment's preferences. -/
def take (format : Format) (environment : Environment) (configuration : Configuration)
    (field : String × Datum) : Decoded Configuration := do
  match field.1 with
  | "search" =>
    let search ← SearchPreferences.ofDatum format (.ofEnvironment environment) field.2
    return { configuration with search }
  | "logging" =>
    let logging ← LoggingPreferences.ofDatum format (.ofEnvironment environment) field.2
    return { configuration with logging }
  | _ => return configuration

/-- The configuration of plain data; what is not there comes from the environment. -/
def ofDatum (format : Format) (environment : Environment) (datum : Datum) :
    Decoded Configuration := do
  let defaults := ofEnvironment environment
  match ← Decode.layout "RuntimeConfig" datum with
  | .byName fields => fields.foldlM (take format environment) defaults
  | .byOrder elements =>
    let (search, rest) ←
      Decode.elementOr (SearchPreferences.ofDatum format defaults.search) defaults.search
        elements
    let (logging, rest) ←
      Decode.elementOr (LoggingPreferences.ofDatum format defaults.logging) defaults.logging
        rest
    Decode.surplus format elements rest
    return { search, logging }

end Configuration

end SearchLex
