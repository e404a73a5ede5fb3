import SearchLex.Datum.Json
import SearchLex.Log.Code
import SearchLex.Log.Level
import SearchLex.Token.Codec

/-! Log events: a coded message with an optional place in the query and named context
values. The context is kept in the order of its names, and a name has one value. -/

namespace SearchLex.Log

/-- Named values in the order of their names. -/
abbrev Context := List (String × String)

/-- The context with a value under a name; a value it had before is replaced. -/
def Context.insert (context : Context) (key value : String) : Context :=
  match context with
  | [] => [(key, value)]
  | (other, held) :: rest =>
    if key < other then (key, value) :: (other, held) :: rest
    else if key = other then (key, value) :: rest
    else (other, held) :: Context.insert rest key value

/-- A log event. The time it happened is added when it is written. -/
structure Event where
  level : Level
  code : Code
  message : String
  span : Option Span := none
  context : Context := []
  deriving DecidableEq, Repr

namespace Event

/-- The start of a text, cut to a number of characters. -/
def cut (length : Nat) (text : String) : String := String.ofList (text.toList.take length)

/-- An event; a message that is too long is cut. -/
def make (level : Level) (code : Code) (message : String) : Event :=
  { level, code, message := cut Limits.logMessageLength message }

def error (code : Code) (message : String) : Event := make .error code message

def success (code : Code) (message : String) : Event := make .info code message

def warning (message : String) : Event := make .warning .plainWarning message

def info (message : String) : Event := make .info .plainInfo message

def debug (message : String) : Event := make .debug .plainDebug message

def withSpan (event : Event) (span : Span) : Event := { event with span := some span }

def withContext (event : Event) (key value : String) : Event :=
  { event with context := event.context.insert key value }

/-- The event with context values, the later ones winning. -/
def withContexts (event : Event) (pairs : List (String × String)) : Event :=
  pairs.foldl (fun event pair => event.withContext pair.1 pair.2) event

def isError (event : Event) : Bool := event.level == .error

def plain (event : Event) : String :=
  let head := "[" ++ event.level.name ++ "] " ++ event.code.text ++ " - " ++ event.message
  let place := match event.span with
    | some span => " at " ++ span.start.text
    | none => ""
  let pairs := event.context.map fun (key, value) => key ++ "=" ++ value
  let context := if pairs.isEmpty then "" else " (" ++ ", ".intercalate pairs ++ ")"
  head ++ place ++ context

/-- The fields of an event as data. A missing span and an empty context are left out. -/
def fields (event : Event) : List (String × Datum) :=
  [("level", event.level.datum), ("code", .text event.code.text),
    ("message", .text event.message)] ++
  Datum.optional "span" (event.span.map Span.datum) ++
  Datum.optional "context"
    (if event.context.isEmpty then none
      else some (.record (event.context.map fun (key, value) => (key, .text value))))

def datum (event : Event) : Datum := .record event.fields

/-- An event as a JSON line that begins with the time it was written. -/
def structured (timestamp : String) (event : Event) : String :=
  Json.line (.record (("timestamp", .text timestamp) :: event.fields))

end Event

end SearchLex.Log
