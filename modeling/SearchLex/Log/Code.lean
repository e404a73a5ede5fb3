import SearchLex.Failure

/-! Event codes and the registry that explains them. -/

namespace SearchLex.Log

/-- The code of an event. -/
structure Code where
  text : String
  deriving DecidableEq, Repr

/-- How grave the matter behind a code is. -/
inductive Severity where
  | critical
  | high
  | medium
  | low
  deriving DecidableEq, Repr

def Severity.name : Severity → String
  | .critical => "Critical"
  | .high => "High"
  | .medium => "Medium"
  | .low => "Low"

/-- What the registry says about a code. -/
structure CodeInfo where
  code : Code
  category : String
  severity : Severity
  /-- Whether other input can still be processed. -/
  recoverable : Bool
  description : String
  action : String
  deriving DecidableEq, Repr

namespace Code

def configurationFailure : Code := ⟨"E010"⟩
def illegalCharacter : Code := ⟨"E300"⟩
def unterminatedPhrase : Code := ⟨"E301"⟩
def queryTooLong : Code := ⟨"E302"⟩
def tooManyTokens : Code := ⟨"E303"⟩
def loggingInstalled : Code := ⟨"I004"⟩
def tokenized : Code := ⟨"I300"⟩

/-- The code of warnings without one of their own. -/
def plainWarning : Code := ⟨"W000"⟩

/-- The code of information without one of its own. -/
def plainInfo : Code := ⟨"I000"⟩

/-- The code of debug output. -/
def plainDebug : Code := ⟨"D000"⟩

def registry : List CodeInfo :=
  [ { code := configurationFailure
      category := "Configuration"
      severity := .high
      recoverable := false
      description := "Configuration file could not be loaded"
      action := "Check the file path and TOML syntax" },
    { code := illegalCharacter
      category := "Search"
      severity := .low
      recoverable := true
      description := "Character not permitted at this position of a $search expression"
      action := "Quote the term as a phrase or remove the character" },
    { code := unterminatedPhrase
      category := "Search"
      severity := .low
      recoverable := true
      description := "Phrase opened with a quotation mark was never closed"
      action := "Add the closing quotation mark" },
    { code := queryTooLong
      category := "Search"
      severity := .medium
      recoverable := true
      description := "$search value exceeds the maximum query length"
      action := "Shorten the search expression" },
    { code := tooManyTokens
      category := "Search"
      severity := .medium
      recoverable := true
      description := "$search value produces too many tokens"
      action := "Simplify the search expression" },
    { code := loggingInstalled
      category := "System"
      severity := .low
      recoverable := true
      description := "Logging initialized"
      action := "None" },
    { code := tokenized
      category := "Search"
      severity := .low
      recoverable := true
      description := "$search value tokenized"
      action := "Hand the token stream to the expression parser" } ]

/-- The registry's entry for a code, if there is one. -/
def info (code : Code) : Option CodeInfo := registry.find? (·.code = code)

def category (code : Code) : String := (code.info.map (·.category)).getD "General"

def severity (code : Code) : Severity := (code.info.map (·.severity)).getD .low

def description (code : Code) : String :=
  (code.info.map (·.description)).getD "Unregistered code"

def action (code : Code) : String := (code.info.map (·.action)).getD "None"

def ofFailure : Failure → Code
  | .illegalCharacter .. => illegalCharacter
  | .unterminatedPhrase _ => unterminatedPhrase
  | .queryTooLong _ => queryTooLong
  | .tooManyTokens _ => tooManyTokens

end Code

end SearchLex.Log
