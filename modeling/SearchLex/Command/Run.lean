import SearchLex.Command.Arguments
import SearchLex.Configuration
import SearchLex.Diagnostic
import SearchLex.Text.Lines
import SearchLex.Text.Padding
import SearchLex.Tokenizer

/-! The command as a function: from its arguments, its environment and the files it can
read to its exit status and what it writes. -/

namespace SearchLex.Command

/-- How tokens are printed. -/
inductive OutputFormat where
  | text
  | json
  deriving DecidableEq, Repr

/-- The output format of a name in any case. -/
def OutputFormat.parse (name : String) : Except String OutputFormat :=
  match Text.lowerCase name with
  | "text" => .ok .text
  | "json" => .ok .json
  | other => .error ("Unknown output format: " ++ other)

/-- What the command finds around it. -/
structure Surroundings where
  environment : Environment
  read : String → Except ReadError String

/-- Something written to standard error. -/
inductive Notice where
  | log (line : Log.Line)
  /-- A failed query, for readers without a log. -/
  | report (failure : Failure) (text : String)
  /-- Why the command gave up. -/
  | abort (details : String)
  /-- Why the command line was not understood. -/
  | usage (error : UsageError)

def Notice.text (timestamp : String) : Notice → String
  | .log line => line.text timestamp ++ "\n"
  | .report _ text => text
  | .abort details => "Error: " ++ details ++ "\n"
  | .usage error => "error: " ++ error.message ++ "\n"

/-- What a run of the command comes to. -/
structure Outcome where
  status : UInt32
  /-- The lines of standard output. -/
  output : List String := []
  notices : List Notice := []

namespace Outcome

def stdout (outcome : Outcome) : String :=
  outcome.output.foldl (fun written line => (written ++ line).push '\n') ""

def stderr (outcome : Outcome) (timestamp : String) : String :=
  outcome.notices.foldl (fun written notice => written ++ notice.text timestamp) ""

end Outcome

def versionLine : String := "search-tokenize 0.1.0"

def helpLines : List String :=
  [ "Tokenize OData $search query values",
    "",
    "Usage: search-tokenize [OPTIONS] [QUERIES]...",
    "",
    "Arguments:",
    "  [QUERIES]...  Queries to tokenize, one per argument",
    "",
    "Options:",
    "  -f, --file <FILE>            Read one query per non-empty line",
    "      --format <FORMAT>        Output format: text, json [default: text]",
    "      --legacy-fallback        Drop the character that breaks a keyword match, as older releases did",
    "      --config <CONFIG>        TOML file with [search] and [logging] sections",
    "      --log-level <LOG_LEVEL>  Minimum log level: error, warning, info or debug",
    "  -q, --quiet                  No log output on stderr",
    "  -h, --help                   Print help",
    "  -V, --version                Print version" ]

def tokenLine (token : PlacedToken) : String :=
  "  " ++ Text.alignLeft 10 token.span.text ++ " " ++ token.value.text

def tokenDatum (token : PlacedToken) : Datum :=
  .record [("kind", token.value.kind.datum), ("literal", .text token.value.literal),
    ("span", token.span.datum)]

/-- The lines for the tokens of a query. Text has the query first when there are
several. -/
def tokenLines (format : OutputFormat) (several : Bool) (query : String)
    (tokens : List PlacedToken) : List String :=
  match format with
  | .text => (if several then [query] else []) ++ tokens.map tokenLine
  | .json =>
    [Json.line (.record [("query", .text query), ("tokens", .list (tokens.map tokenDatum))])]

def failureDatum (failure : Failure) : Checked Datum := do
  let span ← failure.span
  return .record
    ([("code", .text (Log.Code.ofFailure failure).text), ("message", .text failure.message)] ++
      Datum.optional "span" (span.map Span.datum))

/-- A failure as a report with its code. -/
def reportText (query : String) (failure : Failure) : Checked String := do
  let message := "[" ++ (Log.Code.ofFailure failure).text ++ "] " ++ failure.message
  match ← failure.span with
  | some span => return Diagnostic.render query span message
  | none => return "error: " ++ message ++ "\n"

/-- The command under way: the log, what is written so far, and how many queries failed. -/
structure Work where
  session : Log.Session
  output : Array String := #[]
  notices : Array Notice := #[]
  failures : Nat := 0

namespace Work

/-- Takes over a session, and its lines as notices. -/
def absorb (work : Work) (session : Log.Session) : Work :=
  { work with
    session := { session with lines := #[] }
    notices := work.notices ++ session.lines.map Notice.log }

/-- Tokenizes one query and writes what came of it. A failure is reported on standard
error only if the console log has not told it. -/
def query (work : Work) (configuration : Configuration) (format : OutputFormat)
    (several : Bool) (text : String) : Checked Work := do
  let (result, session) ← Tokenizer.tokenize configuration.search text work.session
  let work := work.absorb session
  match result with
  | .ok stream =>
    return { work with output := work.output ++ tokenLines format several text stream.tokens }
  | .error failure =>
    let work := { work with failures := ← Checked.increment work.failures }
    match format with
    | .json =>
      let line := Json.line (.record [("query", .text text), ("error", ← failureDatum failure)])
      return { work with output := work.output.push line }
    | .text =>
      if configuration.logging.console then return work
      else
        let report := Notice.report failure (← reportText text failure)
        return { work with notices := work.notices.push report }

def queries (work : Work) (configuration : Configuration) (format : OutputFormat)
    (several : Bool) : List String → Checked Work
  | [] => .ok work
  | text :: rest => do
    (← work.query configuration format several text).queries configuration format several rest

def outcome (work : Work) : Outcome where
  status := if 0 < work.failures then 1 else 0
  output := work.output.toList
  notices := work.notices.toList

def abort (work : Work) (details : String) : Outcome where
  status := 1
  output := work.output.toList
  notices := work.notices.toList ++ [.abort details]

end Work

/-- The configuration of a run: from a file or the environment. -/
def baseConfiguration (surroundings : Surroundings) (arguments : Arguments) :
    Except Configuration.LoadError Configuration :=
  match arguments.config with
  | some path => Configuration.load surroundings.environment surroundings.read path
  | none => .ok (.ofEnvironment surroundings.environment)

/-- The configuration with the options that override it. -/
def override (arguments : Arguments) (configuration : Configuration) :
    Except String Configuration := do
  let minLevel ← match arguments.logLevel with
    | some level => Log.Level.parse level
    | none => .ok configuration.logging.minLevel
  return {
    search := { configuration.search with
      fallback := if arguments.legacyFallback then .legacy else configuration.search.fallback }
    logging := { configuration.logging with
      minLevel
      console := if arguments.quiet then false else configuration.logging.console } }

/-- The queries of a run: the arguments, then the lines of the file that are not empty. -/
def collectQueries (surroundings : Surroundings) (arguments : Arguments) :
    Except String (List String) :=
  match arguments.file with
  | none => .ok arguments.queries
  | some path =>
    match surroundings.read path with
    | .ok content =>
      .ok (arguments.queries ++ (Text.lines content).filter fun line => !line.isEmpty)
    | .error error => .error ("Failed to read '" ++ path ++ "': " ++ error.message)

def startContext (configuration : Configuration) (count : Nat) : List (String × String) :=
  [("count", toString count), ("keyword_fallback", configuration.search.fallback.name),
    ("build", Limits.summary)]

/-- A run with a configuration: sets up logging, then tokenizes every query. -/
def runConfigured (surroundings : Surroundings) (arguments : Arguments)
    (format : OutputFormat) (configuration : Configuration) : Checked Outcome := do
  let idle : Work := { session := {} }
  match idle.session.installPreferences configuration.logging with
  | .error error => return idle.abort (Text.quoted error.message)
  | .ok session =>
    let work := idle.absorb session
    match collectQueries surroundings arguments with
    | .error reason => return work.abort (Text.quoted reason)
    | .ok queries =>
      let work := work.absorb <| work.session.dispatch
        (.info "Tokenizing $search queries") (startContext configuration queries.length)
      let work ← work.queries configuration format (1 < queries.length) queries
      return work.outcome

/-- A run of the command with arguments that were understood. A bad format is found
before a bad configuration, and that before a bad log level. -/
def runArguments (surroundings : Surroundings) (arguments : Arguments) : Checked Outcome := do
  let idle : Work := { session := {} }
  match OutputFormat.parse (arguments.format.getD "text") with
  | .error reason => return idle.abort (Text.quoted reason)
  | .ok format =>
    match baseConfiguration surroundings arguments with
    | .error error =>
      let work := idle.absorb (idle.session.reportError .configurationFailure error.message)
      return work.abort error.details
    | .ok configuration =>
      match override arguments configuration with
      | .error reason => return idle.abort (Text.quoted reason)
      | .ok configuration => runConfigured surroundings arguments format configuration

def run (surroundings : Surroundings) (arguments : List String) : Checked Outcome :=
  match Arguments.read arguments with
  | .error error => .ok { status := 2, notices := [.usage error] }
  | .ok .version => .ok { status := 0, output := [versionLine] }
  | .ok .help => .ok { status := 0, output := helpLines }
  | .ok (.tokenize arguments) => runArguments surroundings arguments

end SearchLex.Command
