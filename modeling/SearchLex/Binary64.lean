/-! Double-precision numbers read from decimal text and written back with the fewest
digits. A finite number is its mantissa times a power of two; both directions are exact
arithmetic on natural numbers. -/

namespace SearchLex

/-- A double-precision number. A finite one is `mantissa * 2 ^ exponent` with a mantissa
below `2 ^ 53`, and its exponent is as small as that and `-1074` allow. -/
inductive Binary64 where
  | nan
  | infinite (negative : Bool)
  | finite (negative : Bool) (mantissa : Nat) (exponent : Int)
  deriving DecidableEq, Repr

/-- A positive rational number as a quotient. -/
structure Ratio where
  numerator : Nat
  denominator : Nat
  deriving DecidableEq, Repr

/-- Where a value goes that lies exactly between two neighbours. -/
inductive Tie where
  | even
  | up
  deriving DecidableEq, Repr

namespace Ratio

/-- The quotient of two powers: `count * base ^ exponent`. -/
def scaled (count base : Nat) (exponent : Int) : Ratio :=
  if 0 ≤ exponent then ⟨count * base.pow exponent.toNat, 1⟩
  else ⟨count, base.pow (-exponent).toNat⟩

/-- A ratio times a power of the base. -/
def scale (ratio : Ratio) (base : Nat) (exponent : Int) : Ratio :=
  if 0 ≤ exponent then ⟨ratio.numerator * base.pow exponent.toNat, ratio.denominator⟩
  else ⟨ratio.numerator, ratio.denominator * base.pow (-exponent).toNat⟩

/-- The nearest natural number; of two, the one the tie rule takes. -/
def nearest (ratio : Ratio) (tie : Tie) : Nat :=
  let whole := ratio.numerator / ratio.denominator
  let rest := ratio.numerator % ratio.denominator
  match compare (2 * rest) ratio.denominator with
  | .lt => whole
  | .gt => whole + 1
  | .eq =>
    match tie with
    | .even => if whole % 2 = 0 then whole else whole + 1
    | .up => whole + 1

/-- Comparison of two ratios by cross products. -/
def order (left right : Ratio) : Ordering :=
  compare (left.numerator * right.denominator) (right.numerator * left.denominator)

end Ratio

namespace Binary64

/-- The exponent of the smallest step between two numbers. -/
def leastExponent : Int := -1074

/-- The exponent of the largest step between two numbers. -/
def greatestExponent : Int := 971

/-- The least mantissa of 53 bits, `2 ^ 52`. -/
def leastFullMantissa : Nat := 4503599627370496

/-- The exponent at which a ratio has a mantissa of 53 bits, never below the least. -/
def exponentFor (ratio : Ratio) : Int :=
  let guess : Int := (Nat.log2 ratio.numerator : Int) - Nat.log2 ratio.denominator - 52
  let short := (ratio.scale 2 (-guess)).order ⟨leastFullMantissa, 1⟩ == .lt
  max (if short then guess - 1 else guess) leastExponent

/-- The number nearest to a ratio; too large a ratio is infinite. -/
def ofRatio (negative : Bool) (ratio : Ratio) : Binary64 :=
  if ratio.numerator = 0 then .finite negative 0 leastExponent
  else
    let exponent := exponentFor ratio
    let mantissa := (ratio.scale 2 (-exponent)).nearest .even
    let (mantissa, exponent) :=
      if mantissa = 2 * leastFullMantissa then (leastFullMantissa, exponent + 1)
      else (mantissa, exponent)
    if greatestExponent < exponent then .infinite negative
    else .finite negative mantissa exponent

/-- The number of decimal digits of a count. -/
def digitCount (count : Nat) : Nat := (Nat.toDigits 10 count).length

/-- The number nearest to `digits * 10 ^ exponent`. Magnitudes far outside the range are
settled before any power is computed. -/
def ofDecimal (negative : Bool) (digits : Nat) (exponent : Int) : Binary64 :=
  if digits = 0 then .finite negative 0 leastExponent
  else if 400 < (digitCount digits : Int) + exponent then .infinite negative
  else if (digitCount digits : Int) + exponent < -400 then .finite negative 0 leastExponent
  else ofRatio negative (.scaled digits 10 exponent)

/-- Whether a decimal reads back as the given mantissa and exponent. -/
def readsBack (mantissa : Nat) (exponent : Int) (digits : Nat) (power : Int) : Bool :=
  ofRatio false (.scaled digits 10 power) == .finite false mantissa exponent

/-- Of two neighbours on a decimal grid, the one that reads back; of two, the nearer. -/
def chooseNeighbour (tie : Tie) (value : Ratio) (mantissa : Nat) (exponent : Int)
    (power : Int) : Option Nat :=
  let below := (value.scale 10 (-power))
  let low := below.numerator / below.denominator
  let high := low + 1
  match readsBack mantissa exponent low power, readsBack mantissa exponent high power with
  | true, false => some low
  | false, true => some high
  | true, true => some (below.nearest tie)
  | false, false => none

/-- The first decimal grid, from coarse to fine, with a neighbour that reads back. -/
def searchGrid (tie : Tie) (value : Ratio) (mantissa : Nat) (exponent : Int) (power : Int) :
    Nat → Nat × Int
  | 0 => ((value.scale 10 (-power)).nearest tie, power)
  | budget + 1 =>
    match chooseNeighbour tie value mantissa exponent power with
    | some digits => (digits, power)
    | none => searchGrid tie value mantissa exponent (power - 1) budget

/-- The power of ten of the leading digit, or one more. -/
def leadingPower (value : Ratio) : Int :=
  (digitCount value.numerator : Int) - digitCount value.denominator + 1

/-- The fewest decimal digits that read back as a positive number, and their power. -/
def shortest (tie : Tie) (mantissa : Nat) (exponent : Int) : Nat × Int :=
  let value := Ratio.scaled mantissa 2 exponent
  searchGrid tie value mantissa exponent (leadingPower value) 20

/-- Digits at a power of ten, written out without an exponent. -/
def positional (digits : Nat) (power : Int) : String :=
  let text := Nat.toDigits 10 digits
  if 0 ≤ power then String.ofList (text ++ List.replicate power.toNat '0') ++ ".0"
  else
    let places := (-power).toNat
    let padded := List.replicate (places + 1 - text.length) '0' ++ text
    String.ofList (padded.take (padded.length - places)) ++ "." ++
      String.ofList (padded.drop (padded.length - places))

/-- Digits at a power of ten, written with one digit before the point and an exponent. -/
def withExponent (digits : Nat) (power : Int) : String :=
  let text := Nat.toDigits 10 digits
  let leading := power + (text.length - 1 : Nat)
  let places := text.drop 1
  String.ofList (text.take 1) ++
    (if places.isEmpty then "" else "." ++ String.ofList places) ++
    (if leading < 0 then "e-" else "e+") ++ toString leading.natAbs

/-- How numbers are written. -/
structure Style where
  /-- Which of two shortest texts is taken when both are equally near. -/
  tie : Tie
  /-- The least and greatest power of the leading digit that is written out without an
  exponent; every power if there are none. -/
  writtenOut : Option (Int × Int)
  deriving DecidableEq, Repr

/-- Whether digits at a power of ten are written out without an exponent. -/
def Style.writesOut (style : Style) (digits : Nat) (power : Int) : Bool :=
  match style.writtenOut with
  | none => true
  | some (least, greatest) =>
    let leading := power + (digitCount digits - 1 : Nat)
    least ≤ leading && leading ≤ greatest

/-- A number as text with the fewest digits that read back. -/
def text (style : Style) : Binary64 → String
  | .nan => "NaN"
  | .infinite negative => (if negative then "-" else "") ++ "inf"
  | .finite negative mantissa exponent =>
    let (digits, power) := if mantissa = 0 then (0, 0) else shortest style.tie mantissa exponent
    (if negative then "-" else "") ++
      if style.writesOut digits power then positional digits power
      else withExponent digits power

end Binary64

end SearchLex
