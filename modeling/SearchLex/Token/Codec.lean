import SearchLex.Datum.Decode
import SearchLex.Token.Stream

/-! Positions, spans and tokens as plain data, and back. -/

namespace SearchLex

namespace Position

def datum (position : Position) : Datum :=
  .record [("offset", .count position.offset.toNat), ("line", .count position.line.toNat),
    ("column", .count position.column.toNat)]

/-- The counters of a position met so far. -/
structure Draft where
  offset : Option UInt64 := none
  line : Option UInt32 := none
  column : Option UInt32 := none

/-- Takes up one field; others than the three counters are ignored. -/
def Draft.take (draft : Draft) (field : String × Datum) : Decoded Draft := do
  match field.1 with
  | "offset" => return { draft with offset := some (← Decode.offset field.2) }
  | "line" => return { draft with line := some (← Decode.counter field.2) }
  | "column" => return { draft with column := some (← Decode.counter field.2) }
  | _ => return draft

/-- The position of plain data. -/
def ofDatum (format : Format) (datum : Datum) : Decoded Position := do
  match ← Decode.layout "Position" datum with
  | .byName fields =>
    let draft ← fields.foldlM Draft.take {}
    return ⟨← Decode.required "offset" draft.offset, ← Decode.required "line" draft.line,
      ← Decode.required "column" draft.column⟩
  | .byOrder elements =>
    let (offset, rest) ← Decode.element Decode.offset "Position" 3 0 elements
    let (line, rest) ← Decode.element Decode.counter "Position" 3 1 rest
    let (column, rest) ← Decode.element Decode.counter "Position" 3 2 rest
    Decode.surplus format elements rest
    return ⟨offset, line, column⟩

end Position

namespace Span

def datum (span : Span) : Datum :=
  .record [("start", span.start.datum), ("end", span.stop.datum)]

/-- The positions of a span met so far. -/
structure Draft where
  start : Option Position := none
  stop : Option Position := none

/-- Takes up one field; others than the two positions are ignored. -/
def Draft.take (format : Format) (draft : Draft) (field : String × Datum) : Decoded Draft := do
  match field.1 with
  | "start" => return { draft with start := some (← Position.ofDatum format field.2) }
  | "end" => return { draft with stop := some (← Position.ofDatum format field.2) }
  | _ => return draft

/-- The span of plain data; it may run backwards. -/
def ofDatum (format : Format) (datum : Datum) : Decoded Span := do
  match ← Decode.layout "Span" datum with
  | .byName fields =>
    let draft ← fields.foldlM (Draft.take format) {}
    return ⟨← Decode.required "start" draft.start, ← Decode.required "end" draft.stop⟩
  | .byOrder elements =>
    let (start, rest) ← Decode.element (Position.ofDatum format) "Span" 2 0 elements
    let (stop, rest) ← Decode.element (Position.ofDatum format) "Span" 2 1 rest
    Decode.surplus format elements rest
    return ⟨start, stop⟩

end Span

namespace Kind

def datum (kind : Kind) : Datum := .text kind.name

/-- The kind of plain data. -/
def ofDatum (format : Format) : Datum → Decoded Kind :=
  Decode.choice format (all.map fun kind => (kind.name, kind))

end Kind

namespace Token

def datum (token : Token) : Datum :=
  .record [("kind", token.kind.datum), ("literal", .text token.literal)]

/-- The fields of a token met so far. -/
structure Draft where
  kind : Option Kind := none
  literal : Option String := none

/-- Takes up one field; others than kind and literal are ignored. -/
def Draft.take (format : Format) (draft : Draft) (field : String × Datum) : Decoded Draft := do
  match field.1 with
  | "kind" => return { draft with kind := some (← Kind.ofDatum format field.2) }
  | "literal" => return { draft with literal := some (← Decode.text field.2) }
  | _ => return draft

/-- The token of plain data. -/
def ofDatum (format : Format) (datum : Datum) : Decoded Token := do
  match ← Decode.layout "SearchToken" datum with
  | .byName fields =>
    let draft ← fields.foldlM (Draft.take format) {}
    return ⟨← Decode.required "kind" draft.kind, ← Decode.required "literal" draft.literal⟩
  | .byOrder elements =>
    let (kind, rest) ← Decode.element (Kind.ofDatum format) "SearchToken" 2 0 elements
    let (literal, rest) ← Decode.element Decode.text "SearchToken" 2 1 rest
    Decode.surplus format elements rest
    return ⟨kind, literal⟩

end Token

namespace PlacedToken

def datum (token : PlacedToken) : Datum :=
  .record [("value", token.value.datum), ("span", token.span.datum)]

/-- The fields of a placed token met so far. -/
structure Draft where
  value : Option Token := none
  span : Option Span := none

/-- Takes up one field; others than token and span are ignored. -/
def Draft.take (format : Format) (draft : Draft) (field : String × Datum) : Decoded Draft := do
  match field.1 with
  | "value" => return { draft with value := some (← Token.ofDatum format field.2) }
  | "span" => return { draft with span := some (← Span.ofDatum format field.2) }
  | _ => return draft

/-- The placed token of plain data. -/
def ofDatum (format : Format) (datum : Datum) : Decoded PlacedToken := do
  match ← Decode.layout "Spanned" datum with
  | .byName fields =>
    let draft ← fields.foldlM (Draft.take format) {}
    return ⟨← Decode.required "value" draft.value, ← Decode.required "span" draft.span⟩
  | .byOrder elements =>
    let (value, rest) ← Decode.element (Token.ofDatum format) "Spanned" 2 0 elements
    let (span, rest) ← Decode.element (Span.ofDatum format) "Spanned" 2 1 rest
    Decode.surplus format elements rest
    return ⟨value, span⟩

end PlacedToken

/-- A stream as a record of its tokens; the read position is not part of it. -/
def Stream.datum (stream : Stream) : Datum :=
  .record [("tokens", .list (stream.tokens.map PlacedToken.datum))]

end SearchLex
