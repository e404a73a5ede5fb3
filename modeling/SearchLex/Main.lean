import SearchLex.Command.Run
import SearchLex.Log.Timestamp
import Std.Time.DateTime.Timestamp

/-! The command line program: gathers arguments, environment and files, runs the command,
and writes what it came to. -/

namespace SearchLex.Command

def settingNames : List String :=
  [ "ODATA_SEARCH_KEYWORD_FALLBACK", "ODATA_SEARCH_ENFORCE_LIMITS",
    "ODATA_SEARCH_INCLUDE_POSITIONS", "ODATA_SEARCH_LOG_TOKEN_SUMMARY",
    "ODATA_SEARCH_LOGGING_USE_STRUCTURED", "ODATA_SEARCH_LOGGING_ENABLE_CONSOLE",
    "ODATA_SEARCH_LOGGING_MIN_LEVEL" ]

def readEnvironment : IO Environment := do
  let found ← settingNames.filterMapM fun name => do
    return (← IO.getEnv name).map fun value => (name, value)
  return fun name => found.lookup name

/-- The read error behind a number and words of the system. -/
def readErrorOf (code : UInt32) (reason : String) : ReadError :=
  if code = 2 then .notFound
  else if code = 20 then .notADirectory
  else if code = 21 then .isADirectory
  else if code = 36 then .nameTooLong
  else .refused code.toNat reason

/-- The read error behind a refusal of the system. -/
def readError : IO.Error → ReadError
  | .noFileOrDirectory _ code reason => readErrorOf code reason
  | .inappropriateType _ code reason => readErrorOf code reason
  | .permissionDenied _ code reason => readErrorOf code reason
  | .invalidArgument _ code reason => readErrorOf code reason
  | .otherError code reason => readErrorOf code reason
  | other => .refused 5 (toString other)

def readText (path : String) : IO (Except ReadError String) := do
  try
    let bytes ← IO.FS.readBinFile path
    match String.fromUTF8? bytes with
    | some text => return .ok text
    | none => return .error .notText
  catch error => return .error (readError error)

/-- The files the arguments name, with their texts. -/
def readFiles (arguments : List String) : IO (List (String × Except ReadError String)) :=
  match Arguments.read arguments with
  | .ok (.tokenize parsed) =>
    (parsed.config.toList ++ parsed.file.toList).mapM fun path => do
      return (path, ← readText path)
  | _ => return []

def now : IO Log.Timestamp := do
  let time ← Std.Time.Timestamp.now
  let elapsed := time.toNanosecondsSinceUnixEpoch.toInt.toNat
  return ⟨elapsed / 1000000000, elapsed % 1000000000⟩

end SearchLex.Command

open SearchLex SearchLex.Command in
/-- Runs the command and gives its exit status. -/
def main (arguments : List String) : IO UInt32 := do
  let environment ← readEnvironment
  let files ← readFiles arguments
  let read path := (files.lookup path).getD (.error .notFound)
  match run { environment, read } arguments with
  | .ok outcome =>
    (← IO.getStdout).putStr outcome.stdout
    (← IO.getStderr).putStr (outcome.stderr (← now).text)
    return outcome.status
  | .error fault =>
    (← IO.getStderr).putStr (fault.message ++ "\n")
    return 101
