import SearchLex.Datum

/-! Values of a TOML document while it is read. A table remembers how it was written,
because that decides who may still add to it. -/

namespace SearchLex.Toml

/-- How a table came to be. -/
inductive Form where
  /-- By a header of its own, or as the document itself. -/
  | header
  /-- As the parent of a table with a header. -/
  | implied
  /-- By a dotted key. -/
  | dotted
  /-- Between braces. -/
  | inline
  deriving DecidableEq, Repr

/-- A value of a document. -/
inductive Value where
  | text (value : String)
  | integer (value : Int)
  | real (value : Binary64)
  | boolean (value : Bool)
  | moment (written : String)
  | array (elements : List Value)
  | table (form : Form) (entries : List (String × Value))
  /-- Tables under one doubled header, the last one still open to additions. -/
  | tables (rows : List (List (String × Value)))
  deriving Repr, Inhabited

/-- The entries of a table in the order they were added. -/
abbrev Entries := List (String × Value)

mutual

def Value.datum : Value → Datum
  | .text value => .text value
  | .integer value => .integer value
  | .real value => .real value
  | .boolean value => .boolean value
  | .moment written => .moment written
  | .array elements => .list (elementData elements)
  | .table _ entries => .record (entryData entries)
  | .tables rows => .list (rowData rows)

def elementData : List Value → List Datum
  | [] => []
  | element :: rest => element.datum :: elementData rest

def entryData : List (String × Value) → List (String × Datum)
  | [] => []
  | (key, value) :: rest => (key, value.datum) :: entryData rest

def rowData : List (List (String × Value)) → List Datum
  | [] => []
  | row :: rest => .record (entryData row) :: rowData rest

end

namespace Entries

/-- The entries with the value of a present key changed. -/
def replace (entries : Entries) (key : String) (value : Value) : Entries :=
  entries.map fun entry => if entry.1 = key then (key, value) else entry

/-- Goes down a path of keys and changes the table at its end. Tables on the way that are
missing are made. A dotted key goes only through tables that no header or brace has
closed. -/
def descend (byDots : Bool) (change : Form → Entries → Option (α × Entries)) :
    List String → Form → Entries → Option (α × Entries)
  | [], form, entries => change form entries
  | key :: path, _, entries =>
    match entries.lookup key with
    | none => do
      let form := if byDots then Form.dotted else Form.implied
      let (found, inner) ← descend byDots change path form []
      return (found, entries ++ [(key, .table form inner)])
    | some (.table form inner) =>
      if form = .inline ∨ (byDots ∧ form = .header) then none
      else do
        let (found, inner) ← descend byDots change path form inner
        return (found, entries.replace key (.table form inner))
    | some (.tables rows) =>
      match rows.getLast? with
      | none => none
      | some last => do
        let (found, last) ← descend byDots change path .header last
        return (found, entries.replace key (.tables (rows.dropLast ++ [last])))
    | some _ => none

/-- Adds a value under a dotted key. The last table on the way must be one that dotted
keys made, and the last key must be new. -/
def assign (entries : Entries) (form : Form) (path : List String) (key : String)
    (value : Value) : Option Entries :=
  Prod.snd <$> descend true
    (fun form entries =>
      if (form == .dotted) == path.isEmpty then none
      else if (entries.lookup key).isSome then none
      else some ((), entries ++ [(key, value)]))
    path form entries

/-- Takes out the table a header names, so that the header can add to it. Only a table
that was implied so far may be there. -/
def reopen (entries : Entries) (path : List String) (key : String) :
    Option (Entries × Entries) :=
  descend false
    (fun _ entries =>
      match entries.lookup key with
      | none => some ([], entries)
      | some (.table .implied inner) => some (inner, entries.filter fun entry => entry.1 ≠ key)
      | some _ => none)
    path .header entries

def putTable (entries : Entries) (path : List String) (key : String) (table : Entries) :
    Option Entries :=
  Prod.snd <$> descend false
    (fun _ entries =>
      match entries.lookup key with
      | none => some ((), entries ++ [(key, .table .header table)])
      | some _ => none)
    path .header entries

def putRow (entries : Entries) (path : List String) (key : String) (table : Entries) :
    Option Entries :=
  Prod.snd <$> descend false
    (fun _ entries =>
      match entries.lookup key with
      | none => some ((), entries ++ [(key, .tables [table])])
      | some (.tables rows) => some ((), entries.replace key (.tables (rows ++ [table])))
      | some _ => none)
    path .header entries

end Entries

end SearchLex.Toml
