import SearchLex.Datum.Decode
import SearchLex.Text.LowerCase

/-! Log levels, from the most to the least severe. -/

namespace SearchLex.Log

/-- How severe an event is. -/
inductive Level where
  | error
  | warning
  | info
  | debug
  deriving DecidableEq, Repr

namespace Level

/-- Every level, the most severe first. -/
def all : List Level := [.error, .warning, .info, .debug]

/-- The verbosity of a level: the more severe, the smaller. -/
def rank : Level → Nat
  | .error => 0
  | .warning => 1
  | .info => 2
  | .debug => 3

instance : LE Level := ⟨fun left right => left.rank ≤ right.rank⟩

instance : LT Level := ⟨fun left right => left.rank < right.rank⟩

instance (left right : Level) : Decidable (left ≤ right) :=
  inferInstanceAs (Decidable (left.rank ≤ right.rank))

instance (left right : Level) : Decidable (left < right) :=
  inferInstanceAs (Decidable (left.rank < right.rank))

def moreVerbose (left right : Level) : Level := if left ≤ right then right else left

/-- The least verbose level logging can be set to. -/
def floor : Level := .warning

def name : Level → String
  | .error => "ERROR"
  | .warning => "WARN"
  | .info => "INFO"
  | .debug => "DEBUG"

/-- The level of a name in any case, or of its rank. -/
def parse (text : String) : Except String Level :=
  match Text.lowerCase text with
  | "error" | "0" => .ok .error
  | "warning" | "warn" | "1" => .ok .warning
  | "info" | "2" => .ok .info
  | "debug" | "3" => .ok .debug
  | other => .error ("Unknown log level: " ++ other)

def datum (level : Level) : Datum := .text level.name

def options : List (String × Level) :=
  [("error", .error), ("warn", .warning), ("warning", .warning), ("info", .info),
    ("debug", .debug)]

/-- The level of plain data. Configuration has small letters only. -/
def ofDatum (format : Format) : Datum → Decoded Level := Decode.choice format options

end Level

end SearchLex.Log
