import SearchLex.Scan.State

/-! One step of the scanner: what a character, or the end of the query, does to a
state. -/

namespace SearchLex

/-- The tokens a step retires, oldest first, and what it leads to. The tokens stand even
when the step fails. -/
structure Step (α : Type) where
  emitted : List PlacedToken
  outcome : Except Failure α
  deriving Repr

namespace Step

def next (outcome : α) (emitted : List PlacedToken := []) : Step α := ⟨emitted, .ok outcome⟩

def fail (failure : Failure) (emitted : List PlacedToken := []) : Step α :=
  ⟨emitted, .error failure⟩

/-- The step with tokens emitted before its own. -/
def after (earlier : List PlacedToken) (step : Step α) : Step α :=
  { step with emitted := earlier ++ step.emitted }

end Step

namespace State

def parenthesis (kind : Kind) (ch : Char) (place : Position) : Checked PlacedToken := do
  return ⟨⟨kind, String.singleton ch⟩, ← Span.single place ch⟩

/-- The state a character opens where a term or a negation may stand. -/
def openTerm (ch : Char) (place : Position) : Except Failure State :=
  if ch = 'N' then .ok (.keyword .not (.ofChar place ch) none)
  else if ch = '"' then .ok (.phrase (.ofChar place ch))
  else if Alphabet.isWord ch then .ok (.word (.ofChar place ch))
  else .error (.illegalCharacter ch place)

/-- The state a character opens where an expression may start. -/
def openExpression (ch : Char) (place : Position) : Except Failure State :=
  if ch = '(' then .ok (.opening place)
  else if ch = ')' then .ok (.closing place)
  else if Alphabet.isBlank ch then .ok (.implicitAnd (.ofChar place ch))
  else openTerm ch place

def stepWord (literal : Literal) (ch : Char) (place : Position) : Checked (Step State) := do
  if Alphabet.isWord ch then return .next (.word (literal.push ch))
  else if ch = ')' then return .next (.closing place) [← literal.token .word]
  else if Alphabet.isBlank ch then
    return .next (.implicitAnd (.ofChar place ch)) [← literal.token .word]
  else return .fail (.illegalCharacter ch place)

def stepPhrase (literal : Literal) (ch : Char) (place : Position) : Checked (Step State) := do
  if Alphabet.isQuoted ch then return .next (.phrase (literal.push ch))
  else if ch = '"' then return .next .expression [← (literal.push ch).token .phrase]
  else return .fail (.illegalCharacter ch place)

/-- A character after blanks that may become an AND. -/
def stepImplicitAnd (literal : Literal) (ch : Char) (place : Position) :
    Checked (Step State) := do
  if Alphabet.isBlank ch then return .next (.implicitAnd (literal.push ch))
  else if ch = 'O' then return .next (.keyword .or (.ofChar place ch) (some literal))
  else if ch = 'A' then return .next (.keyword .and (.ofChar place ch) (some literal))
  else return ⟨[← literal.token .and], openExpression ch place⟩

/-- The AND of blanks that were held back, if there were any. -/
def releaseHeld : Option Literal → Checked (List PlacedToken)
  | none => .ok []
  | some literal => do return [← literal.token .and]

/-- A character after the first letters of a keyword. The keyword is an operator only
when a blank follows all of it. -/
def stepKeyword (fallback : Fallback) (operator : Keyword) (literal : Literal)
    (held : Option Literal) (ch : Char) (place : Position) : Checked (Step State) := do
  let expected := operator.expects literal.text.length
  if expected = some ch then return .next (.keyword operator (literal.push ch) held)
  else if expected = none ∧ Alphabet.isBlank ch then
    return .next .afterKeyword [← literal.token operator.kind]
  else
    match fallback with
    | .feedThrough =>
      let released ← releaseHeld held
      return (← stepWord literal ch place).after released
    | .legacy => return .next (.word literal)

/-- What a character at a place does to a state. -/
def step (fallback : Fallback) (state : State) (ch : Char) (place : Position) :
    Checked (Step State) := do
  match state with
  | .expression => return ⟨[], openExpression ch place⟩
  | .afterKeyword =>
    if Alphabet.isBlank ch then return .next .afterKeyword
    else return ⟨[], openExpression ch place⟩
  | .opening opened =>
    let token ← parenthesis .opening '(' opened
    if Alphabet.isBlank ch then return .fail (.illegalCharacter ch place) [token]
    else return ⟨[token], openExpression ch place⟩
  | .closing closed =>
    return ⟨[← parenthesis .closing ')' closed], openExpression ch place⟩
  | .word literal => stepWord literal ch place
  | .phrase literal => stepPhrase literal ch place
  | .implicitAnd literal => stepImplicitAnd literal ch place
  | .keyword operator literal held => stepKeyword fallback operator literal held ch place

/-- What the end of the query does to a state. Blanks at the end give no token. -/
def finish (fallback : Fallback) (state : State) : Checked (Step Unit) := do
  match state with
  | .expression | .afterKeyword | .implicitAnd _ => return .next ()
  | .opening place => return .next () [← parenthesis .opening '(' place]
  | .closing place => return .next () [← parenthesis .closing ')' place]
  | .word literal => return .next () [← literal.token .word]
  | .phrase literal => return .fail (.unterminatedPhrase literal.start)
  | .keyword operator literal held =>
    match fallback with
    | .legacy => return .next ()
    | .feedThrough =>
      if operator.expects literal.text.length = none then
        return .next () [← literal.token operator.kind]
      else
        let released ← releaseHeld held
        return .next () (released ++ [← literal.token .word])

end State

end SearchLex
