import SearchLex.Log.Session
import SearchLex.Scan.Run
import SearchLex.Token.Stream

/-! The tokenizer as callers use it: preferences in, a token stream or a failure out, and
the events of the call in the log. -/

namespace SearchLex.Tokenizer

/-- The stream of a query, or why it has none. -/
def run (preferences : SearchPreferences) (query : String) :
    Checked (Except Failure Stream) := do
  match ← Scanner.scan preferences.fallback preferences.enforceLimits query with
  | .error failure => return .error failure
  | .ok tokens => return .ok (.ofTokens tokens)

/-- A query short enough for a log line. -/
def loggable (query : String) : String :=
  if Limits.loggedQueryLength < query.length then
    Log.Event.cut Limits.loggedQueryLength query ++ "..."
  else query

def startContext (preferences : SearchPreferences) (query : String) : List (String × String) :=
  [("query", loggable query), ("byte_length", toString query.utf8ByteSize),
    ("keyword_fallback", preferences.fallback.name),
    ("limits_enforced", toString preferences.enforceLimits)]

/-- The context of a success: how many tokens of each kind there are. -/
def summaryContext (query : String) (counts : Counts) : List (String × String) :=
  [("query", loggable query), ("token_count", toString counts.total),
    ("words", toString counts.words), ("phrases", toString counts.phrases),
    ("operators", toString counts.explicitOperators),
    ("implicit_ands", toString counts.implicitAnds),
    ("paren_balance", toString counts.balance)]

/-- The event of a failure. It points into the query when the failure does and positions
are wanted. -/
def failureEvent (preferences : SearchPreferences) (query : String) (failure : Failure) :
    Checked Log.Event := do
  let code := Log.Code.ofFailure failure
  match ← failure.span, preferences.includePositions with
  | some span, true =>
    return ((Log.Event.error code failure.message).withSpan span).withContexts
      [("query", loggable query), ("line", toString span.start.line.toNat),
        ("column", toString span.start.column.toNat)]
  | _, _ =>
    return (Log.Event.error code "Tokenization failed").withContexts
      [("query", loggable query), ("byte_length", toString query.utf8ByteSize)]

/-- Tokenizes a query and logs what happened. -/
def tokenize (preferences : SearchPreferences) (query : String) (session : Log.Session) :
    Checked (Except Failure Stream × Log.Session) := do
  let session := session.debug "Starting $search tokenization" (startContext preferences query)
  match ← run preferences query with
  | .ok stream =>
    if preferences.logSummary then
      let session := session.dispatch
        (.success .tokenized "Tokenization completed successfully")
        (summaryContext query stream.counts)
      return (.ok stream, session)
    else return (.ok stream, session)
  | .error failure =>
    return (.error failure, session.deliver (← failureEvent preferences query failure))

end SearchLex.Tokenizer
