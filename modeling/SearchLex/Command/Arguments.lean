/-! The command line: options in any order between the queries. An option is given once,
by its long name or its letter; letters can be joined, and a value can be joined to
either. -/

namespace SearchLex.Command

/-- The options of the command. -/
inductive Switch where
  | file
  | format
  | legacyFallback
  | config
  | logLevel
  | quiet
  | help
  | version
  deriving DecidableEq, Repr

namespace Switch

def longName : Switch → String
  | .file => "file"
  | .format => "format"
  | .legacyFallback => "legacy-fallback"
  | .config => "config"
  | .logLevel => "log-level"
  | .quiet => "quiet"
  | .help => "help"
  | .version => "version"

/-- The letter of an option, if it has one. -/
def letter : Switch → Option Char
  | .file => some 'f'
  | .quiet => some 'q'
  | .help => some 'h'
  | .version => some 'V'
  | .format | .legacyFallback | .config | .logLevel => none

def all : List Switch :=
  [.file, .format, .legacyFallback, .config, .logLevel, .quiet, .help, .version]

/-- The option of a long name; names cannot be shortened. -/
def ofLong (name : String) : Option Switch := all.find? (·.longName == name)

def ofLetter (ch : Char) : Option Switch := all.find? (·.letter == some ch)

def takesValue : Switch → Bool
  | .file | .format | .config | .logLevel => true
  | .legacyFallback | .quiet | .help | .version => false

end Switch

/-- What the command is to do. -/
structure Arguments where
  queries : List String := []
  file : Option String := none
  format : Option String := none
  legacyFallback : Bool := false
  config : Option String := none
  logLevel : Option String := none
  quiet : Bool := false
  deriving DecidableEq, Repr

/-- Why a command line is not understood. -/
inductive UsageError where
  | unknownOption (written : String)
  | missingValue (option : Switch)
  | unexpectedValue (option : Switch)
  | emptyValue (option : Switch)
  | repeatedOption (option : Switch)
  | noQuery
  deriving DecidableEq, Repr

def UsageError.message : UsageError → String
  | .unknownOption written => "unexpected argument '" ++ written ++ "' found"
  | .missingValue option => "a value is required for '--" ++ option.longName ++ "'"
  | .unexpectedValue option => "no value is expected for '--" ++ option.longName ++ "'"
  | .emptyValue option => "an empty value was given for '--" ++ option.longName ++ "'"
  | .repeatedOption option =>
    "the argument '--" ++ option.longName ++ "' cannot be used multiple times"
  | .noQuery => "no query was given"

/-- What a command line asks for. -/
inductive Request where
  | tokenize (arguments : Arguments)
  | help
  | version
  deriving DecidableEq, Repr

namespace Arguments

/-- A value for an option that has none yet. -/
def once (option : Switch) (held : Option String) (value : String) :
    Except UsageError (Option String) :=
  if held.isSome then .error (.repeatedOption option) else .ok (some value)

/-- A path for an option that has none yet. A path is not empty. -/
def oncePath (option : Switch) (held : Option String) (value : String) :
    Except UsageError (Option String) := do
  let held ← once option held value
  if value.isEmpty then throw (.emptyValue option) else return held

def setValue (arguments : Arguments) (option : Switch) (value : String) :
    Except UsageError Arguments := do
  match option with
  | .file => return { arguments with file := ← oncePath option arguments.file value }
  | .format => return { arguments with format := ← once option arguments.format value }
  | .config => return { arguments with config := ← oncePath option arguments.config value }
  | .logLevel => return { arguments with logLevel := ← once option arguments.logLevel value }
  | .legacyFallback | .quiet | .help | .version => throw (.unexpectedValue option)

/-- What reading an option leads to. -/
inductive Progress where
  | goOn (arguments : Arguments)
  /-- The option's value is the next argument. -/
  | valueNext (arguments : Arguments) (option : Switch)
  | stop (request : Request)

/-- An option that stands without a value. -/
def setFlag (arguments : Arguments) (option : Switch) : Except UsageError Progress := do
  match option with
  | .legacyFallback =>
    if arguments.legacyFallback then throw (.repeatedOption option)
    else return .goOn { arguments with legacyFallback := true }
  | .quiet =>
    if arguments.quiet then throw (.repeatedOption option)
    else return .goOn { arguments with quiet := true }
  | .help => return .stop .help
  | .version => return .stop .version
  | .file | .format | .config | .logLevel => return .valueNext arguments option

/-- The characters before an equals sign, and those after it if there is one. -/
def splitValue (chars : List Char) : String × Option String :=
  let name := chars.takeWhile (· != '=')
  match chars.drop name.length with
  | [] => (String.ofList name, none)
  | _ :: value => (String.ofList name, some (String.ofList value))

/-- An option by its long name, from after its dashes. -/
def readLong (arguments : Arguments) (chars : List Char) : Except UsageError Progress := do
  let (name, value) := splitValue chars
  match Switch.ofLong name with
  | none => throw (.unknownOption ("--" ++ name))
  | some option =>
    match value with
    | none => arguments.setFlag option
    | some value =>
      if option.takesValue then return .goOn (← arguments.setValue option value)
      else throw (.unexpectedValue option)

/-- Options by their letters, from after the dash. What follows the letter of an option
with a value is the value, with or without an equals sign. -/
def readLetters (arguments : Arguments) : List Char → Except UsageError Progress
  | [] => .ok (.goOn arguments)
  | ch :: rest => do
    match Switch.ofLetter ch with
    | none => throw (.unknownOption ("-" ++ String.singleton ch))
    | some option =>
      if option.takesValue then
        match rest with
        | [] => return .valueNext arguments option
        | '=' :: value => return .goOn (← arguments.setValue option (String.ofList value))
        | value => return .goOn (← arguments.setValue option (String.ofList value))
      else
        match ← arguments.setFlag option with
        | .goOn arguments => readLetters arguments rest
        | other => return other

/-- Whether an argument is a value or a query: it has no dash, or is only a dash. -/
def isPlain (argument : String) : Bool :=
  match argument.toList with
  | '-' :: rest => rest.isEmpty
  | _ => true

/-- Reads the arguments after those already read. After two dashes all are queries. -/
def readFrom (arguments : Arguments) : List String → Except UsageError Request
  | [] =>
    if arguments.queries.isEmpty && arguments.file.isNone then .error .noQuery
    else .ok (.tokenize arguments)
  | argument :: rest => do
    if isPlain argument then
      readFrom { arguments with queries := arguments.queries ++ [argument] } rest
    else if argument = "--" then
      let arguments := { arguments with queries := arguments.queries ++ rest }
      if arguments.queries.isEmpty && arguments.file.isNone then throw .noQuery
      else return .tokenize arguments
    else
      let progress ← match argument.toList with
        | '-' :: '-' :: name => arguments.readLong name
        | _ :: letters => arguments.readLetters letters
        | [] => .ok (.goOn arguments)
      match progress with
      | .goOn arguments => readFrom arguments rest
      | .stop request => return request
      | .valueNext arguments option =>
        match rest with
        | [] => throw (.missingValue option)
        | value :: rest =>
          if isPlain value then readFrom (← arguments.setValue option value) rest
          else throw (.missingValue option)

/-- What a command line asks for. -/
def read (arguments : List String) : Except UsageError Request := readFrom {} arguments

end Arguments

end SearchLex.Command
