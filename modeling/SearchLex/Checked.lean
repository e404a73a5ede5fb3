/-! Arithmetic on fixed-width machine integers. An operation whose result does not
fit is a fault, never a wrapped number; later modules build positions and spans on
these operations only. -/

namespace SearchLex

/-- A broken promise of fixed-width arithmetic, or a span built back to front. -/
inductive Fault where
  | additionOverflow
  | subtractionOverflow
  | reversedSpan
  deriving DecidableEq, Repr

def Fault.message : Fault → String
  | .additionOverflow => "attempt to add with overflow"
  | .subtractionOverflow => "attempt to subtract with overflow"
  | .reversedSpan => "span ends before it starts"

/-- A value whose computation stayed inside its number range. -/
abbrev Checked (α : Type) := Except Fault α

namespace Checked

/-- The sum of a 64-bit number and a count, if it is again a 64-bit number. -/
def add64 (base : UInt64) (count : Nat) : Checked UInt64 :=
  if base.toNat + count < UInt64.size then .ok (UInt64.ofNat (base.toNat + count))
  else .error .additionOverflow

/-- The sum of a 32-bit number and a count, if it is again a 32-bit number. -/
def add32 (base : UInt32) (count : Nat) : Checked UInt32 :=
  if base.toNat + count < UInt32.size then .ok (UInt32.ofNat (base.toNat + count))
  else .error .additionOverflow

/-- The difference of two 64-bit numbers, if it is not negative. -/
def sub64 (left right : UInt64) : Checked UInt64 :=
  if right ≤ left then .ok (left - right) else .error .subtractionOverflow

/-- One more than a count, if it is again a signed 32-bit number. -/
def increment (count : Nat) : Checked Nat :=
  if count + 1 < UInt32.size / 2 then .ok (count + 1) else .error .additionOverflow

theorem add64_eq_ok {base : UInt64} {count : Nat} (fits : base.toNat + count < UInt64.size) :
    add64 base count = .ok (UInt64.ofNat (base.toNat + count)) :=
  if_pos fits

theorem add32_eq_ok {base : UInt32} {count : Nat} (fits : base.toNat + count < UInt32.size) :
    add32 base count = .ok (UInt32.ofNat (base.toNat + count)) :=
  if_pos fits

end Checked

end SearchLex
