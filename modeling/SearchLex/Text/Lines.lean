/-! The lines of a text. A line feed ends a line, a carriage return right before it is
no part of the line, and a text that ends with a line feed has no further empty line. -/

namespace SearchLex.Text

/-- Pieces between line feeds, after the reversed piece read so far. The run after the
last line feed is a piece too, even an empty one. -/
def piecesAfter (current : List Char) (done : List (List Char)) :
    List Char → List (List Char)
  | [] => (current.reverse :: done).reverse
  | ch :: rest =>
    if ch = '\n' then piecesAfter [] (current.reverse :: done) rest
    else piecesAfter (ch :: current) done rest

/-- The pieces of a text between its line feeds. -/
def pieces (chars : List Char) : List (List Char) :=
  piecesAfter [] [] chars

/-- A line without the carriage return that ends it. -/
def stripReturn (line : List Char) : List Char :=
  if line.getLast? = some '\r' then line.dropLast else line

/-- The lines among the pieces: all but the last were ended by a line feed, and the last
counts only if it is not empty. -/
def closeLines (found : List (List Char)) : List (List Char) :=
  found.dropLast.map stripReturn ++ (found.getLast?.toList.filter fun last => !last.isEmpty)

def lines (text : String) : List String :=
  (closeLines (pieces text.toList)).map String.ofList

theorem piecesAfter_eq (current : List Char) (done : List (List Char)) (chars : List Char) :
    piecesAfter current done chars = done.reverse ++ piecesAfter current [] chars := by
  induction chars generalizing current done with
  | nil => simp [piecesAfter]
  | cons ch rest ih =>
    by_cases feed : ch = '\n'
    · simp only [piecesAfter, feed, ↓reduceIte]
      rw [ih [] (current.reverse :: done), ih [] [current.reverse]]
      simp
    · simp only [piecesAfter, feed, ↓reduceIte]
      exact ih (ch :: current) done

end SearchLex.Text
