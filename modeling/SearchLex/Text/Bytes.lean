/-! Byte views of a text: how many UTF-8 bytes a run of characters takes, and the
characters that lie between two byte offsets. -/

namespace SearchLex.Text

/-- The number of UTF-8 bytes a run of characters takes. -/
def byteCount : List Char → Nat
  | [] => 0
  | ch :: rest => ch.utf8Size + byteCount rest

/-- What is left after the given number of bytes, if they end between two characters. -/
def dropBytes : Nat → List Char → Option (List Char)
  | 0, chars => some chars
  | _ + 1, [] => none
  | count + 1, ch :: rest =>
    if ch.utf8Size ≤ count + 1 then dropBytes (count + 1 - ch.utf8Size) rest else none

/-- The characters in the given number of bytes, if they end between two characters. -/
def takeBytes : Nat → List Char → Option (List Char)
  | 0, _ => some []
  | _ + 1, [] => none
  | count + 1, ch :: rest =>
    if ch.utf8Size ≤ count + 1 then
      (takeBytes (count + 1 - ch.utf8Size) rest).map (ch :: ·)
    else none

/-- The part of a text between two byte offsets. There is none when the range is
reversed, leaves the text or cuts a character. -/
def slice (text : String) (start stop : Nat) : Option String :=
  if start ≤ stop then
    ((dropBytes start text.toList).bind (takeBytes (stop - start))).map String.ofList
  else none

theorem byteCount_append (left right : List Char) :
    byteCount (left ++ right) = byteCount left + byteCount right := by
  induction left with
  | nil => simp [byteCount]
  | cons ch rest ih => simp [byteCount, ih, Nat.add_assoc]

end SearchLex.Text
