import SearchLex.Scan.Step

/-! Whole runs of the scanner: over a query with its limits, and step by step for
inspection. -/

namespace SearchLex

/-- The scanner between two characters: its state, the place of the next character and
the tokens retired so far. -/
structure Scanner where
  state : State
  place : Position
  tokens : Array PlacedToken
  deriving Repr

namespace Scanner

def initial : Scanner := ⟨.expression, .start, #[]⟩

/-- The token limit, if it is enforced. -/
def checkTokenCount (enforced : Bool) (tokens : Array PlacedToken) : Except Failure Unit :=
  if enforced && Limits.tokenCount < tokens.size then .error (.tooManyTokens tokens.size)
  else .ok ()

theorem checkTokenCount_unlimited (tokens : Array PlacedToken) :
    checkTokenCount false tokens = .ok () := by
  simp [checkTokenCount]

def feed (fallback : Fallback) (enforced : Bool) (scanner : Scanner) (ch : Char) :
    Checked (Except Failure Scanner) := do
  let step ← scanner.state.step fallback ch scanner.place
  match step.outcome with
  | .error failure => return .error failure
  | .ok state =>
    let place ← scanner.place.advance ch
    let tokens := scanner.tokens ++ step.emitted
    match checkTokenCount enforced tokens with
    | .error failure => return .error failure
    | .ok () => return .ok ⟨state, place, tokens⟩

/-- The scanner after a run of characters; the first failure ends the run. -/
def feedAll (fallback : Fallback) (enforced : Bool) (scanner : Scanner) :
    List Char → Checked (Except Failure Scanner)
  | [] => .ok (.ok scanner)
  | ch :: rest => do
    match ← scanner.feed fallback enforced ch with
    | .error failure => return .error failure
    | .ok next => next.feedAll fallback enforced rest

/-- The token list once the query has ended. -/
def close (fallback : Fallback) (enforced : Bool) (scanner : Scanner) :
    Checked (Except Failure (List PlacedToken)) := do
  let step ← scanner.state.finish fallback
  match step.outcome with
  | .error failure => return .error failure
  | .ok () =>
    let tokens := scanner.tokens ++ step.emitted
    match checkTokenCount enforced tokens with
    | .error failure => return .error failure
    | .ok () => return .ok tokens.toList

/-- The length limit, if it is enforced. It counts characters; a query that is short in
bytes is not counted. -/
def checkLength (enforced : Bool) (query : String) : Except Failure Unit :=
  if enforced && Limits.queryLength < query.utf8ByteSize && Limits.queryLength < query.length then
    .error (.queryTooLong query.length)
  else .ok ()

def scan (fallback : Fallback) (enforced : Bool) (query : String) :
    Checked (Except Failure (List PlacedToken)) := do
  match checkLength enforced query with
  | .error failure => return .error failure
  | .ok () =>
    match ← initial.feedAll fallback enforced query.toList with
    | .error failure => return .error failure
    | .ok last => last.close fallback enforced

end Scanner

/-- A run of the scanner seen step by step. It has no end when a step failed. -/
structure Trace where
  steps : List (Step State)
  finish : Option (Step Unit)
  deriving Repr

namespace Trace

/-- The trace from a state over a run of characters. The place moves on after each step
that went well. -/
def run (fallback : Fallback) (state : State) (place : Position) :
    List Char → Checked Trace
  | [] => do return ⟨[], some (← state.finish fallback)⟩
  | ch :: rest => do
    let step ← state.step fallback ch place
    match step.outcome with
    | .error _ => return ⟨[step], none⟩
    | .ok next =>
      let trace ← run fallback next (← place.advance ch) rest
      return { trace with steps := step :: trace.steps }

end Trace

end SearchLex
