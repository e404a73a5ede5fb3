import SearchLex.Toml.Numbers
import SearchLex.Toml.Strings

/-! TOML documents read into plain data. A document is a sequence of key assignments and
table headers; it is refused as a whole if any part of it is malformed, defines a key
twice, or adds to a value that is closed. -/

namespace SearchLex.Toml

/-- How deep arrays and inline tables may be nested, and how many parts a dotted key may
have. -/
def nestingLimit : Nat := 79

def skipBlanks (chars : List Char) : List Char := chars.dropWhile isBlank

/-- What follows a comment at the start, or everything. -/
def skipComment (chars : List Char) : List Char :=
  match chars with
  | '#' :: rest => rest.dropWhile isVisible
  | _ => chars

/-- What follows the end of a line, at which the document may end too. -/
def lineEnd (chars : List Char) : Option (List Char) :=
  match skipComment (skipBlanks chars) with
  | [] => some []
  | chars => newline? chars

/-- What follows blanks, comments and line ends between the parts of an array. -/
def skipGaps (budget : Nat) (chars : List Char) : Option (List Char) :=
  match budget, skipBlanks chars with
  | budget + 1, '#' :: rest => (newline? (skipComment ('#' :: rest))).bind (skipGaps budget)
  | budget + 1, '\n' :: rest => skipGaps budget rest
  | budget + 1, '\r' :: rest => (newline? ('\r' :: rest)).bind (skipGaps budget)
  | _, chars => some chars

def isBare (ch : Char) : Bool := ch.isAlphanum || ch == '-' || ch == '_'

def keyPart (chars : List Char) : Option (String × List Char) :=
  match chars with
  | '"' :: rest => basicBody "" rest
  | '\'' :: rest => literalBody rest
  | _ =>
    let found := chars.takeWhile isBare
    if found.isEmpty then none else some (String.ofList found, chars.drop found.length)

/-- The parts of a key with points between them, in reverse after those already read. -/
def keyParts : Nat → List String → List Char → Option (List String × List Char)
  | 0, _, _ => none
  | budget + 1, found, chars => do
    let (part, rest) ← keyPart (skipBlanks chars)
    match skipBlanks rest with
    | '.' :: rest => keyParts budget (part :: found) rest
    | rest => return (part :: found, rest)

/-- A key: the parts before its last one, and the last. -/
def key (chars : List Char) : Option ((List String × String) × List Char) := do
  match ← keyParts nestingLimit [] chars with
  | (last :: path, rest) => return ((path.reverse, last), rest)
  | ([], _) => none

/-- The elements of an array after those already read, in reverse, and its end. A comma
may stand after the last one. -/
def elements (element : List Char → Option (Value × List Char)) :
    Nat → List Value → List Char → Option (Value × List Char)
  | 0, _, _ => none
  | budget + 1, found, chars => do
    match ← skipGaps chars.length chars with
    | ']' :: rest => return (.array found.reverse, rest)
    | chars =>
      let (value, rest) ← element chars
      match ← skipGaps rest.length rest with
      | ',' :: rest => elements element budget (value :: found) rest
      | ']' :: rest => return (.array (value :: found).reverse, rest)
      | _ => none

/-- A key, an equals sign and a value. -/
def assignment (element : List Char → Option (Value × List Char)) (chars : List Char) :
    Option (((List String × String) × Value) × List Char) := do
  let (name, rest) ← key chars
  let rest ← after '=' rest
  let (value, rest) ← element (skipBlanks rest)
  return ((name, value), rest)

/-- The assignments of an inline table after those already read, and its end. -/
def inlineEntries (element : List Char → Option (Value × List Char)) :
    Nat → Entries → List Char → Option (Value × List Char)
  | 0, _, _ => none
  | budget + 1, found, chars => do
    let (((path, last), value), rest) ← assignment element chars
    let found ← found.assign .inline path last value
    match skipBlanks rest with
    | ',' :: rest => inlineEntries element budget found rest
    | '\x7d' :: rest => return (.table .inline found, rest)
    | _ => none

/-- A value with so much nesting left. -/
def value : Nat → List Char → Option (Value × List Char)
  | depth, chars =>
    match chars with
    | '"' :: _ | '\'' :: _ => do
      let (text, rest) ← string chars
      return (.text text, rest)
    | '[' :: rest =>
      match depth with
      | 0 => none
      | depth + 1 => elements (value depth) (rest.length + 1) [] rest
    | '\x7b' :: rest =>
      match depth with
      | 0 => none
      | depth + 1 =>
        match skipBlanks rest with
        | '\x7d' :: rest => some (.table .inline [], rest)
        | rest => inlineEntries (value depth) (rest.length + 1) [] rest
    | 't' :: 'r' :: 'u' :: 'e' :: rest => some (.boolean true, rest)
    | 'f' :: 'a' :: 'l' :: 's' :: 'e' :: rest => some (.boolean false, rest)
    | _ => numeric chars

/-- The document as read so far: its finished part, and the table that assignments go to
with the path of its header. -/
structure Draft where
  root : Entries := []
  /-- The header of the current table: its parent's path, its key, and whether the header
  was doubled. The document itself has none. -/
  header : Option (List String × String × Bool) := none
  current : Entries := []

namespace Draft

/-- Puts the current table in its place. -/
def settle (draft : Draft) : Option Entries :=
  match draft.header with
  | none => some draft.current
  | some (path, key, true) => draft.root.putRow path key draft.current
  | some (path, key, false) => draft.root.putTable path key draft.current

def start (draft : Draft) (path : List String) (key : String) (doubled : Bool) :
    Option Draft := do
  let root ← draft.settle
  if doubled then return { root, header := some (path, key, true) }
  else
    let (current, root) ← root.reopen path key
    return { root, header := some (path, key, false), current }

def assign (draft : Draft) (path : List String) (key : String) (value : Value) :
    Option Draft := do
  return { draft with current := ← draft.current.assign .header path key value }

end Draft

/-- A table header from its first bracket on. -/
def header (draft : Draft) (chars : List Char) : Option (Draft × List Char) := do
  match chars with
  | '[' :: '[' :: rest =>
    let ((path, last), rest) ← key rest
    let rest ← after ']' (← after ']' rest)
    return (← draft.start path last true, ← lineEnd rest)
  | '[' :: rest =>
    let ((path, last), rest) ← key rest
    let rest ← after ']' rest
    return (← draft.start path last false, ← lineEnd rest)
  | _ => none

/-- One line of a document, or a header or assignment that runs over several. -/
def statement (draft : Draft) (chars : List Char) : Option (Draft × List Char) := do
  match chars with
  | '[' :: _ => header draft chars
  | '#' :: _ | '\n' :: _ | '\r' :: _ => return (draft, ← lineEnd chars)
  | _ =>
    let (((path, last), found), rest) ← assignment (value nestingLimit) chars
    return (← draft.assign path last found, ← lineEnd rest)

/-- Where a document could not be read. -/
structure Malformed where
  /-- The line on which the part that could not be read begins. -/
  line : Nat
  deriving DecidableEq, Repr

def Malformed.message (fault : Malformed) : String :=
  "malformed TOML at line " ++ toString fault.line

/-- All statements of a document; on failure, what was left to read. -/
def statements : Nat → Draft → List Char → Except (List Char) Draft
  | budget, draft, chars =>
    match budget, skipBlanks chars with
    | _, [] => .ok draft
    | 0, chars => .error chars
    | budget + 1, chars =>
      match statement draft chars with
      | some (draft, rest) => statements budget draft rest
      | none => .error chars

/-- What follows a byte order mark at the start, or everything. -/
def skipMark (chars : List Char) : List Char :=
  match chars with
  | '\ufeff' :: rest => rest
  | _ => chars

def read (document : String) : Except Malformed Datum :=
  let chars := skipMark document.toList
  let lineAt (rest : List Char) := chars.count '\n' - rest.count '\n' + 1
  match statements (chars.length + 1) {} chars with
  | .error rest => .error ⟨lineAt rest⟩
  | .ok draft =>
    match draft.settle with
    | none => .error ⟨lineAt []⟩
    | some entries => .ok (Value.table .header entries).datum

end SearchLex.Toml
