import SearchLex.Text.Digits

/-! The four kinds of TOML strings. Each reader starts after the opening delimiter and
gives the text and what follows the closing one. -/

namespace SearchLex.Toml

open SearchLex.Text

def isBlank (ch : Char) : Bool := ch == ' ' || ch == '\t'

/-- A character that may stand in a comment or a literal string. -/
def isVisible (ch : Char) : Bool :=
  ch == '\t' || (0x20 ≤ ch.toNat && ch.toNat != 0x7F)

/-- What follows a line end at the start, if there is one. -/
def newline? : List Char → Option (List Char)
  | '\n' :: rest => some rest
  | '\r' :: '\n' :: rest => some rest
  | _ => none

def skipNewline (chars : List Char) : List Char := (newline? chars).getD chars

/-- A character given by so many digits of base sixteen after a letter. -/
def numbered (width : Nat) (chars : List Char) : Option (Char × Nat) := do
  let found := chars.take width
  if found.length ≠ width then none
  let code ← hexNumber found
  return (← charOf code, width + 1)

/-- The escaped character after a backslash, and how many characters spell it. -/
def escape : List Char → Option (Char × Nat)
  | 'b' :: _ => some ('\x08', 1)
  | 't' :: _ => some ('\t', 1)
  | 'n' :: _ => some ('\n', 1)
  | 'f' :: _ => some ('\x0c', 1)
  | 'r' :: _ => some ('\r', 1)
  | '"' :: _ => some ('"', 1)
  | '\\' :: _ => some ('\\', 1)
  | 'u' :: rest => numbered 4 rest
  | 'U' :: rest => numbered 8 rest
  | _ => none

/-- The rest of a basic string after what is read of it. -/
def basicBody (text : String) (chars : List Char) : Option (String × List Char) :=
  match chars with
  | [] => none
  | ch :: rest =>
    if ch = '"' then some (text, rest)
    else if ch = '\\' then
      match escape rest with
      | some (decoded, length) => basicBody (text.push decoded) (rest.drop length)
      | none => none
    else if isVisible ch then basicBody (text.push ch) rest
    else none
termination_by chars.length
decreasing_by all_goals simp only [List.length_cons, List.length_drop]; omega

/-- A literal string has no escapes. -/
def literalBody (chars : List Char) : Option (String × List Char) :=
  let body := chars.takeWhile fun ch => isVisible ch && ch != '\''
  match chars.drop body.length with
  | '\'' :: rest => some (String.ofList body, rest)
  | _ => none

/-- How many of the characters at the start are blanks and line ends. -/
def blankLength (chars : List Char) : Nat :=
  match chars with
  | '\r' :: '\n' :: rest => 2 + blankLength rest
  | ch :: rest => if isBlank ch || ch == '\n' then 1 + blankLength rest else 0
  | [] => 0

/-- The blanks a backslash at the end of a line skips: those before the line end, the line
end, and all blanks and line ends after it. -/
def lineContinuation (chars : List Char) : Option Nat :=
  match newline? (chars.dropWhile isBlank) with
  | some _ => some (blankLength chars)
  | none => none

/-- A run of so many delimiters inside a string of several lines: fewer than three belong
to the text. Otherwise the last three of the first five close it, and those before them
belong to the text. -/
def closing (run : Nat) : Option Nat := if run < 3 then none else some (min (run - 3) 2)

/-- A text with a character repeated after it. -/
def pushMany (text : String) (count : Nat) (ch : Char) : String :=
  text ++ String.ofList (List.replicate count ch)

/-- The rest of a basic string of several lines after what is read of it. A line end is
always one line feed in the text. -/
def longBasicBody (text : String) (chars : List Char) : Option (String × List Char) :=
  match chars with
  | [] => none
  | ch :: rest =>
    if ch = '"' then
      let run := 1 + (rest.takeWhile (· == '"')).length
      match closing run with
      | some kept => some (pushMany text kept '"', rest.drop (kept + 2))
      | none => longBasicBody (pushMany text run '"') (rest.drop (run - 1))
    else if ch = '\\' then
      match lineContinuation rest with
      | some length => longBasicBody text (rest.drop length)
      | none =>
        match escape rest with
        | some (decoded, length) => longBasicBody (text.push decoded) (rest.drop length)
        | none => none
    else if ch = '\n' then longBasicBody (text.push '\n') rest
    else if ch = '\r' then
      match rest with
      | '\n' :: more => longBasicBody (text.push '\n') more
      | _ => none
    else if isVisible ch then longBasicBody (text.push ch) rest
    else none
termination_by chars.length
decreasing_by all_goals simp only [List.length_cons, List.length_drop]; omega

/-- The rest of a literal string of several lines after what is read of it. -/
def longLiteralBody (text : String) (chars : List Char) : Option (String × List Char) :=
  match chars with
  | [] => none
  | ch :: rest =>
    if ch = '\'' then
      let run := 1 + (rest.takeWhile (· == '\'')).length
      match closing run with
      | some kept => some (pushMany text kept '\'', rest.drop (kept + 2))
      | none => longLiteralBody (pushMany text run '\'') (rest.drop (run - 1))
    else if ch = '\n' then longLiteralBody (text.push '\n') rest
    else if ch = '\r' then
      match rest with
      | '\n' :: more => longLiteralBody (text.push '\n') more
      | _ => none
    else if isVisible ch then longLiteralBody (text.push ch) rest
    else none
termination_by chars.length
decreasing_by all_goals simp only [List.length_cons, List.length_drop]; omega

/-- A string of any kind, from its opening delimiter on. The line end right after the
delimiter of a string of several lines is no part of it. -/
def string : List Char → Option (String × List Char)
  | '"' :: '"' :: '"' :: rest => longBasicBody "" (skipNewline rest)
  | '"' :: rest => basicBody "" rest
  | '\'' :: '\'' :: '\'' :: rest => longLiteralBody "" (skipNewline rest)
  | '\'' :: rest => literalBody rest
  | _ => none

end SearchLex.Toml
