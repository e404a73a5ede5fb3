import SearchLex.Datum
import SearchLex.Text.Digits

/-! Data read from JSON text. A field that is given twice has its last value, and the
fields of a record come out in the order of their names. A number with a point or an
exponent, or past the 64-bit integers, is a real number. -/

namespace SearchLex.Json

open SearchLex.Text

def skipBlanks (chars : List Char) : List Char :=
  chars.dropWhile fun ch => ch == ' ' || ch == '\t' || ch == '\n' || ch == '\r'

def hexUnit (chars : List Char) : Option Nat :=
  if (chars.take 4).length = 4 then hexNumber (chars.take 4) else none

/-- The escaped character after a backslash, and how many characters spell it. Two
surrogates in a row spell one character. -/
def escape : List Char → Option (Char × Nat)
  | 'u' :: rest => do
    let unit ← hexUnit rest
    if 0xD800 ≤ unit ∧ unit < 0xDC00 then
      match rest.drop 4 with
      | '\\' :: 'u' :: more =>
        let low ← hexUnit more
        if 0xDC00 ≤ low ∧ low < 0xE000 then
          return (← charOf (0x10000 + (unit - 0xD800) * 0x400 + (low - 0xDC00)), 11)
        else none
      | _ => none
    else return (← charOf unit, 5)
  | '"' :: _ => some ('"', 1)
  | '\\' :: _ => some ('\\', 1)
  | '/' :: _ => some ('/', 1)
  | 'b' :: _ => some ('\x08', 1)
  | 'f' :: _ => some ('\x0c', 1)
  | 'n' :: _ => some ('\n', 1)
  | 'r' :: _ => some ('\r', 1)
  | 't' :: _ => some ('\t', 1)
  | _ => none

/-- The rest of a string after what is read of it, up to its closing quotation mark. -/
def stringBody (text : String) (chars : List Char) : Option (String × List Char) :=
  match chars with
  | [] => none
  | ch :: rest =>
    if ch = '"' then some (text, rest)
    else if ch = '\\' then
      match escape rest with
      | some (decoded, length) => stringBody (text.push decoded) (rest.drop length)
      | none => none
    else if ch.toNat < 0x20 then none
    else stringBody (text.push ch) rest
termination_by chars.length
decreasing_by all_goals simp only [List.length_cons, List.length_drop]; omega

/-- The digits after a point, if there is one; none may be missing. -/
def fraction : List Char → Option (List Char × List Char)
  | '.' :: rest =>
    let (found, rest) := digits rest
    if found.isEmpty then none else some (found, rest)
  | chars => some ([], chars)

/-- The power of ten after an exponent mark, if there is one. -/
def exponent : List Char → Option (Option Int × List Char)
  | mark :: rest =>
    if mark = 'e' ∨ mark = 'E' then
      let (negative, rest) := match rest with
        | '-' :: rest => (true, rest)
        | '+' :: rest => (false, rest)
        | rest => (false, rest)
      let (found, rest) := digits rest
      if found.isEmpty then none
      else
        let power : Int := decimalNumber found
        some (some (if negative then -power else power), rest)
    else some (none, mark :: rest)
  | [] => some (none, [])

def number (chars : List Char) : Option (Datum × List Char) := do
  let (negative, chars) := match chars with
    | '-' :: rest => (true, rest)
    | chars => (false, chars)
  let (whole, chars) := digits chars
  if whole.isEmpty ∨ (1 < whole.length ∧ whole.head? = some '0') then none
  let (places, chars) ← fraction chars
  let (power, chars) ← exponent chars
  let value := decimalNumber (whole ++ places)
  let isInteger := places.isEmpty && power.isNone &&
    (if negative then 0 < value && value ≤ UInt64.size / 2 else value < UInt64.size)
  if isInteger then return (.integer (if negative then -(value : Int) else value), chars)
  else return (.real (.ofDecimal negative value (power.getD 0 - places.length)), chars)

/-- A record's fields with one more, in the order of names. An equal name is replaced. -/
def insertField (name : String) (value : Datum) :
    List (String × Datum) → List (String × Datum)
  | [] => [(name, value)]
  | (other, held) :: rest =>
    if name < other then (name, value) :: (other, held) :: rest
    else if name = other then (name, value) :: rest
    else (other, held) :: insertField name value rest

def keyword (word : List Char) (value : Datum) (chars : List Char) : Option (Datum × List Char) :=
  if word.isPrefixOf chars then some (value, chars.drop word.length) else none

mutual

/-- A value. The budget bounds how many values and separators are read. -/
def value : Nat → List Char → Option (Datum × List Char)
  | 0, _ => none
  | budget + 1, chars =>
    match skipBlanks chars with
    | [] => none
    | '"' :: rest => do
      let (text, rest) ← stringBody "" rest
      return (.text text, rest)
    | '[' :: rest =>
      match skipBlanks rest with
      | ']' :: rest => some (.list [], rest)
      | rest => elements budget [] rest
    | '\x7b' :: rest =>
      match skipBlanks rest with
      | '\x7d' :: rest => some (.record [], rest)
      | rest => fields budget [] rest
    | 't' :: rest => keyword ['r', 'u', 'e'] (.boolean true) rest
    | 'f' :: rest => keyword ['a', 'l', 's', 'e'] (.boolean false) rest
    | 'n' :: rest => keyword ['u', 'l', 'l'] .null rest
    | chars => number chars

/-- The elements of a list after those already read, in reverse, and its end. -/
def elements : Nat → List Datum → List Char → Option (Datum × List Char)
  | 0, _, _ => none
  | budget + 1, found, chars => do
    let (element, rest) ← value budget chars
    match skipBlanks rest with
    | ',' :: rest => elements budget (element :: found) rest
    | ']' :: rest => return (.list (element :: found).reverse, rest)
    | _ => none

/-- The fields of a record after those already read, and its end. -/
def fields : Nat → List (String × Datum) → List Char → Option (Datum × List Char)
  | 0, _, _ => none
  | budget + 1, found, chars =>
    match skipBlanks chars with
    | '"' :: rest => do
      let (name, rest) ← stringBody "" rest
      match skipBlanks rest with
      | ':' :: rest => do
        let (datum, rest) ← value budget rest
        let found := insertField name datum found
        match skipBlanks rest with
        | ',' :: rest => fields budget found rest
        | '\x7d' :: rest => return (.record found, rest)
        | _ => none
      | _ => none
    | _ => none

end

def read (text : String) : Option Datum := do
  let chars := text.toList
  let (datum, rest) ← value (2 * chars.length + 2) chars
  if (skipBlanks rest).isEmpty then return datum else none

end SearchLex.Json
