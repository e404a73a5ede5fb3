import SearchLex.Span
import SearchLex.Text.Lines

/-! Caret diagnostics: a message, the query line it is about, and a marker under the
span. -/

namespace SearchLex.Diagnostic

def repeated (count : Nat) (ch : Char) : String :=
  String.ofList (List.replicate count ch)

/-- The line of the source that a span starts on; a line that is not there is empty. -/
def sourceLine (source : String) (span : Span) : String :=
  ((Text.lines source)[span.start.line.toNat - 1]?).getD ""

/-- How many blanks stand before the marker. -/
def indent (span : Span) : Nat :=
  span.start.column.toNat - 1

/-- How many carets mark the span: its columns when it stays on one line, otherwise the
rest of its first line. There is always one. -/
def width (source : String) (span : Span) : Nat :=
  max 1 <|
    if span.start.line = span.stop.line then span.stop.column.toNat - span.start.column.toNat
    else (sourceLine source span).length - indent span

def rows (source : String) (span : Span) (message : String) : List String :=
  let number := toString span.start.line.toNat
  let gutter := repeated number.length ' '
  [ "error: " ++ message,
    "  --> " ++ span.start.text,
    gutter ++ " |",
    number ++ " | " ++ sourceLine source span,
    gutter ++ " | " ++ repeated (indent span) ' ' ++ repeated (width source span) '^' ]

def render (source : String) (span : Span) (message : String) : String :=
  String.join ((rows source span message).map (· ++ "\n"))

end SearchLex.Diagnostic
