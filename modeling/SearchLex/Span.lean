import SearchLex.Position
import SearchLex.Text.Bytes

/-! Half-open ranges of query text, and values tagged with the range they came from. -/

namespace SearchLex

/-- The range from a first position up to, and without, an end position. -/
structure Span where
  start : Position
  stop : Position
  deriving DecidableEq, Repr

namespace Span

instance : Inhabited Span := ⟨⟨.unplaced, .unplaced⟩⟩

/-- A span that is known not to run backwards. -/
def between (start stop : Position) : Checked Span :=
  if start.offset ≤ stop.offset then .ok ⟨start, stop⟩ else .error .reversedSpan

/-- The span of a text that begins at a position. -/
def covering (start : Position) (text : String) : Checked Span := do
  between start (← start.advanceText text)

def single (start : Position) (ch : Char) : Checked Span := do
  between start (← start.advance ch)

def empty : Span := ⟨.start, .start⟩

def length (span : Span) : Checked UInt64 :=
  Checked.sub64 span.stop.offset span.start.offset

def isEmpty (span : Span) : Checked Bool := do
  return (← span.length) == 0

/-- The text under a span, if the span fits the input. -/
def slice (span : Span) (input : String) : Option String :=
  Text.slice input span.start.offset.toNat span.stop.offset.toNat

/-- A span as a reader is told it. The end line is left out when it is the start line. -/
def text (span : Span) : String :=
  if span.start.line = span.stop.line then
    span.start.text ++ "-" ++ toString span.stop.column.toNat
  else span.start.text ++ "-" ++ span.stop.text

end Span

/-- A value and the range of the query it came from. -/
structure Spanned (α : Type) where
  value : α
  span : Span
  deriving DecidableEq, Repr

end SearchLex
