import SearchLex.Text.LowerCase.Table

/-! Texts in small letters. One capital has a small letter of two characters, and the
capital sigma has two small letters: one at the end of a word, one elsewhere. -/

namespace SearchLex.Text

namespace LowerCase

def Capitals.covers (run : Capitals) (code : Nat) : Bool :=
  run.first ≤ code && code ≤ run.last && (code - run.first) % run.stride == 0

/-- The small letters of a character that does not depend on its neighbours. -/
def smallLetters (ch : Char) : List Char :=
  if ch.toNat < 0x80 then [ch.toLower]
  else if ch = 'İ' then ['i', '\u0307']
  else
    match capitals.find? (·.covers ch.toNat) with
    | some run => [Char.ofNat (ch.toNat + run.distance).toNat]
    | none => [ch]

/-- Whether the next character with a say in it has case. -/
def meetsCase (chars : List Char) : Bool :=
  ((chars.dropWhile passedOver.contains).head?.map cased.contains).getD false

/-- The small sigma between a reversed run of characters and the run after it. It is
final when case lies before it and none after. -/
def sigma (before after : List Char) : Char :=
  if meetsCase before && !meetsCase after then 'ς' else 'σ'

/-- The small letters of a run, after a reversed run of characters already seen. -/
def lowerAfter (before done : List Char) : List Char → List Char
  | [] => done.reverse
  | ch :: rest =>
    if ch = 'Σ' then lowerAfter (ch :: before) (sigma before rest :: done) rest
    else lowerAfter (ch :: before) ((smallLetters ch).reverse ++ done) rest

end LowerCase

def lowerCase (text : String) : String :=
  String.ofList (LowerCase.lowerAfter [] [] text.toList)

end SearchLex.Text
