import SearchLex.Files
import SearchLex.Preferences
import SearchLex.Toml.Document

/-! Configurations loaded from TOML documents and files. -/

namespace SearchLex.Configuration

/-- Why a configuration could not be loaded. -/
inductive LoadError where
  | unreadable (path : String) (cause : ReadError)
  | malformed (fault : Toml.Malformed)
  | illTyped (fault : DecodeError)
  deriving Repr

namespace LoadError

def message : LoadError → String
  | .unreadable path cause =>
    "Failed to read configuration file '" ++ path ++ "': " ++ cause.message
  | .malformed fault => "Invalid configuration: " ++ fault.message
  | .illTyped fault => "Invalid configuration: " ++ fault.message .toml

def details : LoadError → String
  | .unreadable path cause =>
    "Io \x7b path: " ++ Text.quoted path ++ ", source: " ++ cause.details ++ " \x7d"
  | .malformed fault => "Parse(" ++ Text.quoted fault.message ++ ")"
  | .illTyped fault => "Parse(" ++ Text.quoted (fault.message .toml) ++ ")"

end LoadError

/-- The configuration of a TOML document; what it does not set comes from the
environment. -/
def ofToml (environment : Environment) (document : String) :
    Except LoadError Configuration := do
  let datum ← (Toml.read document).mapError .malformed
  (ofDatum .toml environment datum).mapError .illTyped

/-- The configuration of a file, given how files are read. -/
def load (environment : Environment) (read : String → Except ReadError String)
    (path : String) : Except LoadError Configuration := do
  let document ← (read path).mapError (.unreadable path)
  ofToml environment document

end SearchLex.Configuration
