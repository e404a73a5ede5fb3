import SearchLex.Alphabet
import SearchLex.Failure
import SearchLex.Scan.Keyword

/-! The scanner's state machine. A state holds the token under construction; a character
either extends it or retires it, and a state that retires emits its token. -/

namespace SearchLex

/-- The text of a token under construction and where it began. -/
structure Literal where
  start : Position
  text : String
  deriving DecidableEq, Repr

namespace Literal

def ofChar (start : Position) (ch : Char) : Literal := ⟨start, String.singleton ch⟩

def push (literal : Literal) (ch : Char) : Literal :=
  { literal with text := literal.text.push ch }

/-- The finished token; its span covers the literal's text. -/
def token (literal : Literal) (kind : Kind) : Checked PlacedToken := do
  return ⟨⟨kind, literal.text⟩, ← Span.covering literal.start literal.text⟩

end Literal

/-- Where the scanner stands between two characters. -/
inductive State where
  /-- An expression may start; so too after a closed phrase. -/
  | expression
  /-- Blanks after an operator keyword. -/
  | afterKeyword
  | opening (place : Position)
  | closing (place : Position)
  | word (literal : Literal)
  | phrase (literal : Literal)
  /-- Blanks after a term, an AND unless an operator follows. -/
  | implicitAnd (literal : Literal)
  /-- The first letters of a keyword, with the blanks held back before AND or OR. -/
  | keyword (operator : Keyword) (literal : Literal) (held : Option Literal)
  deriving DecidableEq, Repr

namespace State

def name : State → String
  | .expression => "Expression"
  | .afterKeyword => "AfterKeyword"
  | .opening _ => "Open"
  | .closing _ => "Close"
  | .word _ => "Word"
  | .phrase _ => "Phrase"
  | .implicitAnd _ => "ImplicitAnd"
  | .keyword .. => "Keyword"

def kind : State → Option Kind
  | .expression | .afterKeyword => none
  | .opening _ => some .opening
  | .closing _ => some .closing
  | .word _ => some .word
  | .phrase _ => some .phrase
  | .implicitAnd _ => some .and
  | .keyword operator .. => some operator.kind

end State

end SearchLex
