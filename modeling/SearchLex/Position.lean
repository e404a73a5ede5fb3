import SearchLex.Checked

/-! Positions inside a query: a byte offset and the line and column a reader sees.
Columns count characters, offsets count UTF-8 bytes. -/

namespace SearchLex

/-- A byte offset with a one-based line and character column. -/
structure Position where
  offset : UInt64
  line : UInt32
  column : UInt32
  deriving DecidableEq, Repr

namespace Position

/-- The first character of a query. -/
def start : Position := ⟨0, 1, 1⟩

/-- The position of a value that was never placed: all counters are zero. -/
def unplaced : Position := ⟨0, 0, 0⟩

instance : Inhabited Position := ⟨unplaced⟩

/-- The position after a character. The offset is checked before the line or column. -/
def advance (position : Position) (ch : Char) : Checked Position := do
  let offset ← Checked.add64 position.offset ch.utf8Size
  if ch = '\n' then
    return ⟨offset, ← Checked.add32 position.line 1, 1⟩
  else
    return ⟨offset, position.line, ← Checked.add32 position.column 1⟩

def advanceChars (position : Position) : List Char → Checked Position
  | [] => .ok position
  | ch :: rest => do (← position.advance ch).advanceChars rest

def advanceText (position : Position) (text : String) : Checked Position :=
  position.advanceChars text.toList

/-- The positions after each character of a run. -/
def trail (position : Position) : List Char → Checked (List Position)
  | [] => .ok []
  | ch :: rest => do
    let next ← position.advance ch
    return next :: (← next.trail rest)

/-- Positions are ordered by offset, then line, then column. -/
def order (left right : Position) : Ordering :=
  ((compare left.offset right.offset).then (compare left.line right.line)).then
    (compare left.column right.column)

/-- A position as a reader is told it: line and column. -/
def text (position : Position) : String :=
  toString position.line.toNat ++ ":" ++ toString position.column.toNat

@[simp] theorem advanceChars_nil (position : Position) :
    position.advanceChars [] = .ok position := rfl

theorem advanceChars_cons (position : Position) (ch : Char) (rest : List Char) :
    position.advanceChars (ch :: rest) =
      position.advance ch >>= fun next => next.advanceChars rest := rfl

/-- Advancing over two runs is advancing over one and then the other. -/
theorem advanceChars_append (position : Position) (left right : List Char) :
    position.advanceChars (left ++ right) =
      position.advanceChars left >>= fun next => next.advanceChars right := by
  induction left generalizing position with
  | nil => rfl
  | cons ch rest ih =>
    simp only [List.cons_append, advanceChars_cons]
    cases moved : position.advance ch with
    | error fault => rfl
    | ok next => exact ih next

end Position

end SearchLex
