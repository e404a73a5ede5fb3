/-! Fixed bounds that protect the tokenizer and its log against hostile input. -/

namespace SearchLex.Limits

def queryLength : Nat := 65536

def tokenCount : Nat := 10000

/-- The most characters of a query that a log event repeats. -/
def loggedQueryLength : Nat := 256

def logBufferSize : Nat := 1000

/-- The most characters a log message keeps. -/
def logMessageLength : Nat := 2048

def profile : String := "development"

def summary : String :=
  profile ++ " profile, search limits: query " ++ toString queryLength ++ " chars / " ++
    toString tokenCount ++ " tokens"

end SearchLex.Limits
