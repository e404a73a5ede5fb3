import SearchLex.Datum

/-! Data as JSON text on one line: no blanks, fields in their order, and only quotation
marks, backslashes and control characters escaped. -/

namespace SearchLex.Json

def hexDigit (value : Nat) : Char := Nat.digitChar (value % 16)

/-- A character inside a JSON string. -/
def escaped (ch : Char) : String :=
  if ch = '"' then "\\\""
  else if ch = '\\' then "\\\\"
  else if ch = '\x08' then "\\b"
  else if ch = '\t' then "\\t"
  else if ch = '\n' then "\\n"
  else if ch = '\x0c' then "\\f"
  else if ch = '\r' then "\\r"
  else if ch.toNat < 0x20 then
    "\\u00" ++ String.singleton (hexDigit (ch.toNat / 16)) ++
      String.singleton (hexDigit ch.toNat)
  else String.singleton ch

def writeText (written : String) (text : String) : String :=
  (text.toList.foldl (fun written ch => written ++ escaped ch) (written.push '"')).push '"'

mutual

/-- Writes data after what is written already. A number that is not finite has no JSON
form and is written as null, a date or time as a string. -/
def write (written : String) : Datum → String
  | .null => written ++ "null"
  | .boolean value => written ++ (if value then "true" else "false")
  | .integer value => written ++ toString value
  | .real (.finite negative mantissa exponent) =>
    written ++ Binary64.text Format.json.style (.finite negative mantissa exponent)
  | .real _ => written ++ "null"
  | .text value => writeText written value
  | .moment value => writeText written value
  | .list [] => written ++ "[]"
  | .list (first :: rest) => (writeElements (write (written.push '[') first) rest).push ']'
  | .record [] => written ++ "\x7b\x7d"
  | .record ((name, first) :: rest) =>
    (writeFields (write (writeText (written.push '\x7b') name ++ ":") first) rest).push '\x7d'

/-- Writes further elements, each after a comma. -/
def writeElements (written : String) : List Datum → String
  | [] => written
  | next :: rest => writeElements (write (written.push ',') next) rest

/-- Writes further fields, each after a comma. -/
def writeFields (written : String) : List (String × Datum) → String
  | [] => written
  | (name, next) :: rest =>
    writeFields (write (writeText (written.push ',') name ++ ":") next) rest

end

def line (datum : Datum) : String := write "" datum

end SearchLex.Json
