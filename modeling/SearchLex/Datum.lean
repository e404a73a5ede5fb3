import SearchLex.Binary64

/-! Trees of plain data: what a configuration document holds and what structured output
is made of. Records keep their fields in order. -/

namespace SearchLex

/-- A tree of plain data. -/
inductive Datum where
  | null
  | boolean (value : Bool)
  | integer (value : Int)
  | real (value : Binary64)
  | text (value : String)
  /-- A date or time, as it was written. -/
  | moment (written : String)
  | list (elements : List Datum)
  | record (fields : List (String × Datum))
  deriving Repr, Inhabited

/-- The format a datum was written in; formats differ in how numbers are written, in how a
choice may be written and in whether a list may be longer than the record it stands for. -/
inductive Format where
  | json
  | toml
  deriving DecidableEq, Repr

/-- How numbers are written: JSON has an exponent for very large and very small ones, TOML
writes out all places. -/
def Format.style : Format → Binary64.Style
  | .json => { tie := .even, writtenOut := some (-5, 15) }
  | .toml => { tie := .up, writtenOut := none }

namespace Datum

def count (number : Nat) : Datum := .integer number

/-- A record of one field, if there is a value for it. -/
def optional (name : String) : Option Datum → List (String × Datum)
  | none => []
  | some value => [(name, value)]

def field? (name : String) : Datum → Option Datum
  | .record fields => fields.lookup name
  | _ => none

mutual

/-- Whether two data are the same, part by part. -/
def same : Datum → Datum → Bool
  | .null, .null => true
  | .boolean left, .boolean right => left == right
  | .integer left, .integer right => left == right
  | .real left, .real right => left == right
  | .text left, .text right => left == right
  | .moment left, .moment right => left == right
  | .list left, .list right => sameElements left right
  | .record left, .record right => sameFields left right
  | _, _ => false

def sameElements : List Datum → List Datum → Bool
  | [], [] => true
  | left :: lefts, right :: rights => same left right && sameElements lefts rights
  | _, _ => false

def sameFields : List (String × Datum) → List (String × Datum) → Bool
  | [], [] => true
  | (name, left) :: lefts, (other, right) :: rights =>
    name == other && same left right && sameFields lefts rights
  | _, _ => false

end

mutual

theorem same_iff : (left right : Datum) → (same left right = true ↔ left = right)
  | .null, right | .boolean _, right | .integer _, right | .real _, right | .text _, right
  | .moment _, right => by cases right <;> simp [same]
  | .list left, right => by cases right <;> simp [same, sameElements_iff left]
  | .record left, right => by cases right <;> simp [same, sameFields_iff left]

theorem sameElements_iff : (left right : List Datum) →
    (sameElements left right = true ↔ left = right)
  | [], right => by cases right <;> simp [sameElements]
  | left :: lefts, right => by
    cases right <;> simp [sameElements, same_iff left, sameElements_iff lefts]

theorem sameFields_iff : (left right : List (String × Datum)) →
    (sameFields left right = true ↔ left = right)
  | [], right => by cases right <;> simp [sameFields]
  | (name, left) :: lefts, right => by
    cases right <;> simp [sameFields, same_iff left, sameFields_iff lefts, Prod.ext_iff]

end

instance : DecidableEq Datum := fun left right => decidable_of_iff _ (same_iff left right)

end Datum

end SearchLex
