import SearchLex.Log.Buffer
import SearchLex.Preferences

/-! A logging service: a level filter before a console or a memory. -/

namespace SearchLex.Log

/-- A line for standard error. -/
inductive Line where
  /-- An event as plain text. -/
  | plain (event : Event)
  /-- An event as JSON. -/
  | structured (event : Event)
  /-- An error that was met before logging was set up. -/
  | unlogged (code : Code) (message : String)
  deriving DecidableEq, Repr

/-- A line without its line feed; the time is that of writing. -/
def Line.text (timestamp : String) : Line → String
  | .plain event => event.plain
  | .structured event => event.structured timestamp
  | .unlogged code message => "[ERROR] " ++ code.text ++ " - " ++ message

/-- Where events go. -/
inductive Sink where
  | console (structured : Bool)
  | memory (buffer : Buffer)
  deriving Repr

/-- Takes an event, and gives the line it puts on the console if any. -/
def Sink.accept (sink : Sink) (event : Event) : Sink × Option Line :=
  match sink with
  | .console true => (sink, some (.structured event))
  | .console false => (sink, some (.plain event))
  | .memory buffer => (.memory (buffer.push event), none)

/-- Forgets what is kept in memory. What a console has shown stays. -/
def Sink.clear : Sink → Sink
  | .console structured => .console structured
  | .memory buffer => .memory buffer.clear

/-- A sink behind a level. -/
structure Service where
  minLevel : Level
  sink : Sink
  deriving Repr

namespace Service

/-- The service of preferences. Its level is never less verbose than the floor. -/
def ofPreferences (preferences : LoggingPreferences) : Service where
  minLevel := preferences.minLevel.moreVerbose .floor
  sink := if preferences.console then .console preferences.structured
    else .memory .standard

def enabled (service : Service) (level : Level) : Bool := level ≤ service.minLevel

def log (service : Service) (event : Event) : Service × Option Line :=
  if service.enabled event.level then
    let (sink, line) := service.sink.accept event
    ({ service with sink }, line)
  else (service, none)

/-- The events kept in memory; a console keeps none. -/
def kept (service : Service) : List Event :=
  match service.sink with
  | .console _ => []
  | .memory buffer => buffer.events

end Service

end SearchLex.Log
