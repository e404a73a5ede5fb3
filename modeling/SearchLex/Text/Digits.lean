/-! Numbers spelled in digits, and the characters that numbers stand for. -/

namespace SearchLex.Text

def hexValue (ch : Char) : Option Nat :=
  if '0' ≤ ch ∧ ch ≤ '9' then some (ch.toNat - '0'.toNat)
  else if 'a' ≤ ch ∧ ch ≤ 'f' then some (ch.toNat - 'a'.toNat + 10)
  else if 'A' ≤ ch ∧ ch ≤ 'F' then some (ch.toNat - 'A'.toNat + 10)
  else none

def hexNumber (chars : List Char) : Option Nat :=
  chars.foldlM (fun value ch => (hexValue ch).map (16 * value + ·)) 0

/-- The decimal digits at the start, and what follows them. -/
def digits (chars : List Char) : List Char × List Char :=
  (chars.takeWhile Char.isDigit, chars.dropWhile Char.isDigit)

def decimalNumber (chars : List Char) : Nat :=
  chars.foldl (fun value ch => 10 * value + (ch.toNat - '0'.toNat)) 0

/-- The character of a code point; a surrogate is none. -/
def charOf (code : Nat) : Option Char :=
  if code.isValidChar then some (Char.ofNat code) else none

end SearchLex.Text
