import SearchLex.Text.Quoted.Table

/-! Texts in quotation marks with everything that does not show spelled out. -/

namespace SearchLex.Text

namespace Quoted

/-- A character spelled out by its number in the smallest base-sixteen form. -/
def spelledOut (ch : Char) : String :=
  "\\u\x7b" ++ String.ofList (Nat.toDigits 16 ch.toNat) ++ "\x7d"

def inside (ch : Char) : String :=
  if ch = '\x00' then "\\0"
  else if ch = '\t' then "\\t"
  else if ch = '\r' then "\\r"
  else if ch = '\n' then "\\n"
  else if ch = '\\' then "\\\\"
  else if ch = '"' then "\\\""
  else if hidden.contains ch then spelledOut ch
  else String.singleton ch

end Quoted

def quoted (text : String) : String :=
  text.toList.foldl (fun written ch => written ++ Quoted.inside ch) "\"" ++ "\""

end SearchLex.Text
