import SearchLex.Text.Digits
import SearchLex.Toml.Value

/-! Numbers, dates and times of a TOML document. -/

namespace SearchLex.Toml

open SearchLex.Text

/-- Digits after a first one; a single underscore may stand between two digits. -/
def moreDigits (isDigit : Char → Bool) : List Char → List Char × List Char
  | '_' :: ch :: rest =>
    if isDigit ch then
      let (found, rest) := moreDigits isDigit rest
      (ch :: found, rest)
    else ([], '_' :: ch :: rest)
  | ch :: rest =>
    if isDigit ch then
      let (found, rest) := moreDigits isDigit rest
      (ch :: found, rest)
    else ([], ch :: rest)
  | [] => ([], [])

def someDigits (isDigit : Char → Bool) : List Char → Option (List Char × List Char)
  | ch :: rest =>
    if isDigit ch then
      let (found, rest) := moreDigits isDigit rest
      some (ch :: found, rest)
    else none
  | [] => none

/-- The digits of a whole number; a zero stands alone. -/
def wholeDigits : List Char → Option (List Char × List Char)
  | '0' :: rest => some (['0'], rest)
  | chars => someDigits Char.isDigit chars

/-- Whether a minus sign stands at the start, and what follows a sign. -/
def signed : List Char → Bool × List Char
  | '-' :: rest => (true, rest)
  | '+' :: rest => (false, rest)
  | chars => (false, chars)

/-- Whether a number is a signed 64-bit number. -/
def fits (value : Int) : Bool :=
  Int64.minValue.toInt ≤ value && value ≤ Int64.maxValue.toInt

/-- The value of digits in a base of sixteen at most. -/
def valueIn (base : Nat) (found : List Char) : Nat :=
  found.foldl (fun value ch => base * value + (hexValue ch).getD 0) 0

/-- Whether a character is a digit of a base. -/
def isDigitIn (base : Nat) (ch : Char) : Bool :=
  match hexValue ch with
  | some value => value < base
  | none => false

/-- Digits of a base after its mark. -/
def based (base : Nat) (chars : List Char) : Option (Value × List Char) := do
  let (found, rest) ← someDigits (isDigitIn base) chars
  let value : Int := valueIn base found
  if fits value then return (.integer value, rest) else none

/-- A whole number. Only one without a sign may have a base mark. -/
def integer : List Char → Option (Value × List Char)
  | '0' :: 'x' :: rest => based 16 rest
  | '0' :: 'o' :: rest => based 8 rest
  | '0' :: 'b' :: rest => based 2 rest
  | chars => do
    let (negative, chars) := signed chars
    let (found, rest) ← wholeDigits chars
    let size : Int := valueIn 10 found
    let value := if negative then -size else size
    if fits value then return (.integer value, rest) else none

def exponent : List Char → Option (Int × List Char)
  | mark :: rest =>
    if mark = 'e' ∨ mark = 'E' then do
      let (negative, rest) := signed rest
      let (found, rest) ← someDigits Char.isDigit rest
      let power : Int := valueIn 10 found
      return (if negative then -power else power, rest)
    else none
  | [] => none

def places : List Char → Option (List Char × List Char)
  | '.' :: rest => someDigits Char.isDigit rest
  | _ => none

/-- Infinity or no number, with or without a sign. -/
def specialReal (chars : List Char) : Option (Value × List Char) :=
  match signed chars with
  | (negative, 'i' :: 'n' :: 'f' :: rest) => some (.real (.infinite negative), rest)
  | (_, 'n' :: 'a' :: 'n' :: rest) => some (.real .nan, rest)
  | _ => none

/-- A number with places, an exponent or both. One too large to be finite is refused,
unless it is negative. -/
def ordinaryReal (chars : List Char) : Option (Value × List Char) := do
  let (negative, chars) := signed chars
  let (whole, chars) ← wholeDigits chars
  let (found, power, rest) ←
    match exponent chars with
    | some (power, rest) => some ([], power, rest)
    | none => do
      let (found, rest) ← places chars
      match exponent rest with
      | some (power, rest) => some (found, power, rest)
      | none => some (found, 0, rest)
  let value := Binary64.ofDecimal negative (valueIn 10 (whole ++ found)) (power - found.length)
  if value = .infinite false then none else return (.real value, rest)

/-- Exactly so many digits, as a number. -/
def fixedDigits (width : Nat) (chars : List Char) : Option (Nat × List Char) :=
  let found := chars.take width
  if found.length = width ∧ found.all Char.isDigit then
    some (decimalNumber found, chars.drop width)
  else none

def twoDigits (low high : Nat) (chars : List Char) : Option (Nat × List Char) := do
  let (value, rest) ← fixedDigits 2 chars
  if low ≤ value ∧ value ≤ high then return (value, rest) else none

/-- What follows an expected character. -/
def after (expected : Char) : List Char → Option (List Char)
  | ch :: rest => if ch = expected then some rest else none
  | [] => none

def monthLength (year month : Nat) : Nat :=
  if month = 2 then
    if year % 4 = 0 ∧ (year % 100 ≠ 0 ∨ year % 400 = 0) then 29 else 28
  else if month = 4 ∨ month = 6 ∨ month = 9 ∨ month = 11 then 30
  else 31

def date (chars : List Char) : Option (List Char) := do
  let (year, rest) ← fixedDigits 4 chars
  let rest ← after '-' rest
  let (month, rest) ← twoDigits 1 12 rest
  let rest ← after '-' rest
  let (day, rest) ← twoDigits 1 31 rest
  if day ≤ monthLength year month then return rest else none

/-- What follows a fraction of a second, or everything. -/
def skipFraction (chars : List Char) : List Char :=
  match chars with
  | '.' :: rest => if (digits rest).1.isEmpty then chars else (digits rest).2
  | _ => chars

/-- What follows a time of day. A minute may have a leap second. -/
def time (chars : List Char) : Option (List Char) := do
  let (_, rest) ← twoDigits 0 23 chars
  let rest ← after ':' rest
  let (_, rest) ← twoDigits 0 59 rest
  let rest ← after ':' rest
  let (_, rest) ← twoDigits 0 60 rest
  return skipFraction rest

/-- What follows an offset from universal time. -/
def timeOffset : List Char → Option (List Char)
  | mark :: rest =>
    if mark = 'Z' ∨ mark = 'z' then some rest
    else if mark = '+' ∨ mark = '-' then do
      let (_, rest) ← twoDigits 0 23 rest
      let rest ← after ':' rest
      let (_, rest) ← twoDigits 0 59 rest
      return rest
    else none
  | [] => none

/-- What follows the time that may stand after a date, or everything. -/
def skipTimeOfDate (chars : List Char) : List Char :=
  match chars with
  | mark :: rest =>
    if mark = 'T' ∨ mark = 't' ∨ mark = ' ' then
      match time rest with
      | some rest => (timeOffset rest).getD rest
      | none => chars
    else chars
  | [] => []

/-- A date, a time, or both. -/
def moment (chars : List Char) : Option (Value × List Char) := do
  let rest ← (skipTimeOfDate <$> date chars).or (time chars)
  return (.moment (String.ofList (chars.take (chars.length - rest.length))), rest)

def numeric (chars : List Char) : Option (Value × List Char) :=
  (((moment chars).or (ordinaryReal chars)).or (specialReal chars)).or (integer chars)

end SearchLex.Toml
