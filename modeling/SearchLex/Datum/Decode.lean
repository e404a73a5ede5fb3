import SearchLex.Datum
import SearchLex.Text.Quoted

/-! Typed values read from plain data. A record is written by field names or as a list of
its fields in order, a choice by its name. The first fault met is the one reported: fields
are visited as they come, and only then is a field found missing. -/

namespace SearchLex

/-- What a typed value is read from. -/
inductive Expected where
  | offset
  | counter
  | boolean
  | text
  | record (name : String)
  | choice
  | nothing
  deriving DecidableEq, Repr

def Expected.words : Expected → String
  | .offset => "usize"
  | .counter => "u32"
  | .boolean => "a boolean"
  | .text => "a string"
  | .record name => "struct " ++ name
  | .choice => "string or map"
  | .nothing => "unit"

def Datum.words (format : Format) : Datum → String
  | .null => "null"
  | .boolean value => "boolean `" ++ toString value ++ "`"
  | .integer value => "integer `" ++ toString value ++ "`"
  | .real value => "floating point `" ++ value.text format.style ++ "`"
  | .text value => "string " ++ Text.quoted value
  | .moment _ => "map"
  | .list _ => "sequence"
  | .record _ => "map"

/-- Why data is not the typed value it should be. -/
inductive DecodeError where
  | wrongType (found : Datum) (expected : Expected)
  | outOfRange (found : Int) (expected : Expected)
  | tooShort (length : Nat) (name : String) (fields : Nat)
  | tooLong (length : Nat)
  | missingField (name : String)
  | unknownChoice (name : String) (known : List String)
  /-- A map that should name one choice has another number of keys. -/
  | severalChoices
  /-- A choice of a TOML document is neither a string nor a table of one empty entry. -/
  | unreadableChoice
  deriving Repr

namespace DecodeError

def listed (names : List String) : String :=
  ", ".intercalate (names.map fun name => "`" ++ name ++ "`")

def choices : List String → String
  | [first, second] => "`" ++ first ++ "` or `" ++ second ++ "`"
  | [only] => "`" ++ only ++ "`"
  | names => "one of " ++ listed names

/-- The words a decoding fault is reported with, for data of a format. -/
def message (format : Format) : DecodeError → String
  | .wrongType found expected =>
    "invalid type: " ++ found.words format ++ ", expected " ++ expected.words
  | .outOfRange found expected =>
    "invalid value: integer `" ++ toString found ++ "`, expected " ++ expected.words
  | .tooShort length name fields =>
    "invalid length " ++ toString length ++ ", expected struct " ++ name ++ " with " ++
      toString fields ++ " elements"
  | .tooLong length =>
    "invalid length " ++ toString length ++ ", expected fewer elements in array"
  | .missingField name => "missing field `" ++ name ++ "`"
  | .unknownChoice name known =>
    "unknown variant `" ++ name ++ "`, expected " ++ choices known
  | .severalChoices => "invalid value: map, expected map with a single key"
  | .unreadableChoice => "wanted string or table"

end DecodeError

/-- A typed value, or why the data has none. -/
abbrev Decoded (α : Type) := Except DecodeError α

namespace Decode

def boolean : Datum → Decoded Bool
  | .boolean value => .ok value
  | other => .error (.wrongType other .boolean)

def text : Datum → Decoded String
  | .text value => .ok value
  | other => .error (.wrongType other .text)

/-- A byte offset: a 64-bit number. -/
def offset : Datum → Decoded UInt64
  | .integer value =>
    if 0 ≤ value ∧ value.toNat < UInt64.size then .ok (UInt64.ofNat value.toNat)
    else .error (.outOfRange value .offset)
  | other => .error (.wrongType other .offset)

/-- A line or column: a 32-bit number. -/
def counter : Datum → Decoded UInt32
  | .integer value =>
    if 0 ≤ value ∧ value.toNat < UInt32.size then .ok (UInt32.ofNat value.toNat)
    else .error (.outOfRange value .counter)
  | other => .error (.wrongType other .counter)

def named (options : List (String × α)) (name : String) : Decoded α :=
  match options.lookup name with
  | some option => .ok option
  | none => .error (.unknownChoice name (options.map Prod.fst))

/-- What stands beside a named choice has to be empty. -/
def emptyPayload : Format → Datum → Decoded Unit
  | .json, .null => .ok ()
  | .json, other => .error (.wrongType other .nothing)
  | .toml, .record [] => .ok ()
  | .toml, .list [] => .ok ()
  | .toml, _ => .error .unreadableChoice

/-- One of several named options: its name, or a map from its name to nothing. -/
def choice (format : Format) (options : List (String × α)) : Datum → Decoded α
  | .text name => named options name
  | .record [(name, payload)] => do
    let option ← named options name
    emptyPayload format payload
    return option
  | other =>
    match format, other with
    | .json, .record _ => .error .severalChoices
    | .json, _ => .error (.wrongType other .choice)
    | .toml, _ => .error .unreadableChoice

/-- A list must not go on after the fields of a record; TOML reads no further. -/
def surplus (format : Format) (elements rest : List Datum) : Decoded Unit :=
  if format = .json && !rest.isEmpty then .error (.tooLong elements.length) else .ok ()

/-- The next element of a list that stands for a record of so many fields. -/
def element (decode : Datum → Decoded α) (name : String) (fields index : Nat) :
    List Datum → Decoded (α × List Datum)
  | [] => .error (.tooShort index name fields)
  | datum :: rest => do return (← decode datum, rest)

/-- The next element of a list, or a default once the list has ended. -/
def elementOr (decode : Datum → Decoded α) (default : α) :
    List Datum → Decoded (α × List Datum)
  | [] => .ok (default, [])
  | datum :: rest => do return (← decode datum, rest)

def required (name : String) : Option α → Decoded α
  | some value => .ok value
  | none => .error (.missingField name)

/-- The fields of a record or the elements of a list in its place. A date or time is a
record without any field of interest. -/
inductive Layout where
  | byName (fields : List (String × Datum))
  | byOrder (elements : List Datum)

/-- How the record of a name is laid out. -/
def layout (name : String) : Datum → Decoded Layout
  | .record fields => .ok (.byName fields)
  | .moment _ => .ok (.byName [])
  | .list elements => .ok (.byOrder elements)
  | other => .error (.wrongType other (.record name))

end Decode

end SearchLex
