import SearchLex.Token.Counts

/-! A token list with a read position, for an expression parser: lookahead, checkpoints
and typed expectations. Reading past the end stays at the end. -/

namespace SearchLex

/-- Tokens in order, and how many of them are already read. -/
structure Stream where
  tokens : List PlacedToken
  position : Nat := 0
  deriving DecidableEq, Repr

/-- Why an expected token could not be read. -/
inductive Stream.Mismatch where
  | unexpected (expected found : Kind) (span : Span)
  | ended (expected : Kind)
  deriving DecidableEq, Repr

def Stream.Mismatch.message : Stream.Mismatch → String
  | .unexpected expected found span =>
    "Expected " ++ expected.name ++ ", found " ++ found.name ++ " at " ++ span.text
  | .ended expected => "Expected " ++ expected.name ++ ", but reached end of input"

namespace Stream

def ofTokens (tokens : List PlacedToken) : Stream := { tokens }

def size (stream : Stream) : Nat := stream.tokens.length

def current (stream : Stream) : Option PlacedToken := stream.tokens[stream.position]?

/-- The token a distance ahead. The distance is a 64-bit number, and so is its sum with
the position. -/
def peekAhead (stream : Stream) (distance : UInt64) : Checked (Option PlacedToken) :=
  if stream.position + distance.toNat < UInt64.size then
    .ok stream.tokens[stream.position + distance.toNat]?
  else .error .additionOverflow

def peek (stream : Stream) : Checked (Option PlacedToken) := stream.peekAhead 1

/-- Moves over the current token, unless the stream is at its end. -/
def advance (stream : Stream) : Stream :=
  if stream.position < stream.size then { stream with position := stream.position + 1 }
  else stream

/-- Moves on, and gives the token that is current then. -/
def next (stream : Stream) : Option PlacedToken × Stream :=
  (stream.advance.current, stream.advance)

def atEnd (stream : Stream) : Bool := stream.size ≤ stream.position

def check (stream : Stream) (kind : Kind) : Bool :=
  match stream.current with
  | some token => token.value.kind == kind
  | none => false

/-- Moves over the current token if it has the kind, and says whether it did. -/
def advanceIf (stream : Stream) (kind : Kind) : Bool × Stream :=
  if stream.check kind then (true, stream.advance) else (false, stream)

/-- Reads a token of the kind; the stream is left alone if the current token is another. -/
def expect (stream : Stream) (kind : Kind) : Except Mismatch PlacedToken × Stream :=
  match stream.current with
  | some token =>
    if token.value.kind = kind then (.ok token, stream.advance)
    else (.error (.unexpected kind token.value.kind token.span), stream)
  | none => (.error (.ended kind), stream)

/-- Goes to a checkpoint; one that lies past the end is the end. -/
def restore (stream : Stream) (checkpoint : Nat) : Stream :=
  { stream with position := min checkpoint stream.size }

def remaining (stream : Stream) : List PlacedToken := stream.tokens.drop stream.position

def kinds (stream : Stream) : List Kind := stream.tokens.map (·.value.kind)

def literals (stream : Stream) : List String := stream.tokens.map (·.value.literal)

def counts (stream : Stream) : Counts := .ofTokens stream.tokens

/-- One line on where the stream stands. -/
def summary (stream : Stream) : String :=
  let place := match stream.current with
    | some token => token.value.text ++ " at " ++ token.span.text
    | none => "<END>"
  "TokenStream(pos: " ++ toString stream.position ++ "/" ++ toString stream.size ++
    ", current: " ++ place ++ ")"

end Stream

end SearchLex
