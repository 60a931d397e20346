import Turnstile.Bytes
set_option autoImplicit false

/-! Binary floating point numbers of 64 bits, as exact multiples of the smallest
positive one. Arithmetic is exact on the multiples and then rounds once, to the
nearest number and a tie to the one whose last digit is even. -/

namespace Turnstile

/-- A finite number: its sign, which zero keeps too, and its magnitude in units
of two to the power -1074. -/
structure Binary64 where
  negative : Bool
  units : Nat
  deriving DecidableEq, Repr

namespace Binary64

def unitsPerOne : Nat := Nat.pow 2 1074

def overflow : Nat := Nat.pow 2 2098

/-- The whole number nearest to a quotient, a tie going to the even one. -/
def roundQuotient (numerator denominator : Nat) : Nat :=
  let quotient := numerator / denominator
  let remainder := numerator % denominator
  if 2 * remainder < denominator then quotient
  else if denominator < 2 * remainder then quotient + 1
  else if quotient % 2 = 0 then quotient
  else quotient + 1

/-- The magnitude nearest to a quotient of units that has at most 53 binary
digits from its first to its last. -/
def roundUnits (numerator denominator : Nat) : Nat :=
  let spare := Bytes.bitSize (numerator / denominator) - 53
  let step := Nat.pow 2 spare
  roundQuotient numerator (denominator * step) * step

def finite? (negative : Bool) (units : Nat) : Option Binary64 :=
  if units < overflow then some ⟨negative, units⟩ else none

def ofRatio? (negative : Bool) (numerator denominator : Nat) : Option Binary64 :=
  finite? negative (roundUnits (numerator * unitsPerOne) denominator)

/-- The number nearest to a whole number below the overflow; beyond it, the
magnitude still follows the rule. -/
def ofInt (value : Int) : Binary64 :=
  ⟨decide (value < 0), roundUnits (value.natAbs * unitsPerOne) 1⟩

def mul? (left right : Binary64) : Option Binary64 :=
  finite? (left.negative != right.negative) (roundUnits (left.units * right.units) unitsPerOne)

def div? (left right : Binary64) : Option Binary64 :=
  finite? (left.negative != right.negative)
    (roundUnits (left.units * unitsPerOne) right.units)

def value (number : Binary64) : Int :=
  if number.negative then -(number.units : Int) else (number.units : Int)

def le (left right : Binary64) : Bool := decide (left.value ≤ right.value)

def int? (number : Binary64) : Option Int :=
  if number.units % unitsPerOne = 0 then some (number.value / (unitsPerOne : Int)) else none

end Binary64

end Turnstile
