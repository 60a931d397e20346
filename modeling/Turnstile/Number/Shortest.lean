import Turnstile.Number.Binary64
set_option autoImplicit false

/-! The shortest decimal form of a binary number: the fewest digits that read
back as the same number, and of those the nearest to it. -/

namespace Turnstile

/-- A decimal number: its significant digits as a whole number, and the power of
ten that scales it. -/
structure Decimal where
  digits : Nat
  exponent : Int
  deriving DecidableEq, Repr

namespace Binary64

/-- The decimals that read back as a positive number lie between two bounds,
given here in quarters of a unit; the bounds themselves do if the last binary
digit is even. -/
structure Interval where
  low : Nat
  high : Nat
  closed : Bool

/-- The interval around a positive magnitude. Below a power of two the numbers
lie twice as dense. -/
def interval (units : Nat) : Interval :=
  let spare := Bytes.bitSize units - 53
  let step := Nat.pow 2 spare
  let below := if 0 < spare ∧ units = Nat.pow 2 (spare + 52) then step else 2 * step
  ⟨4 * units - below, 4 * units + 2 * step, units / step % 2 == 0⟩

/-- A positive rational, as far as comparing needs it: `numerator` over
`denominator` quarters of a unit. -/
def Interval.contains (bounds : Interval) (numerator denominator : Nat) : Bool :=
  if bounds.closed then
    bounds.low * denominator ≤ numerator && numerator ≤ bounds.high * denominator
  else bounds.low * denominator < numerator && numerator < bounds.high * denominator

/-- A bound on the decimal places in front of the first digit of the smallest
number. -/
def leadingPlaces : Nat := 330

def decimalExponent (units : Nat) : Int :=
  let scaled := units * Nat.pow 10 leadingPlaces / unitsPerOne
  ((Nat.toDigits 10 scaled).length : Int) - 1 - (leadingPlaces : Int)

def powerOfTen (exponent : Int) : Nat × Nat :=
  if 0 ≤ exponent then (Nat.pow 10 exponent.toNat, 1) else (1, Nat.pow 10 (-exponent).toNat)

/-- The decimal with a given last place that is in the interval of a magnitude
and nearest to it, if one of its two neighbours is. -/
def nearestAt? (units : Nat) (bounds : Interval) (place : Int) : Option Decimal :=
  let (up, down) := powerOfTen place
  let quarter := 4 * unitsPerOne
  let below := units * down / (unitsPerOne * up)
  let inside := fun (digits : Nat) => bounds.contains (digits * up * quarter) down
  let lowGap := units * down - below * up * unitsPerOne
  let highGap := (below + 1) * up * unitsPerOne - units * down
  match inside below && below != 0, inside (below + 1) with
  | true, true =>
      if lowGap < highGap ∨ (lowGap = highGap ∧ below % 2 = 0) then some ⟨below, place⟩
      else some ⟨below + 1, place⟩
  | true, false => some ⟨below, place⟩
  | false, true => some ⟨below + 1, place⟩
  | false, false => none

/-- The first hit with the last digit at the given place or further right. -/
def searchFrom (units : Nat) (bounds : Interval) : (attempts : Nat) → (place : Int) → Decimal
  | 0, place => ⟨0, place⟩
  | attempts + 1, place =>
      match nearestAt? units bounds place with
      | some decimal => decimal
      | none => searchFrom units bounds attempts (place - 1)

/-- The same decimal without zeros at the end of its digits; `places` bounds their
number. -/
def withoutTrailingZeros : (places : Nat) → Decimal → Decimal
  | 0, decimal => decimal
  | places + 1, decimal =>
      if decimal.digits % 10 = 0 then
        withoutTrailingZeros places ⟨decimal.digits / 10, decimal.exponent + 1⟩
      else decimal

/-- The shortest decimal of a positive magnitude. Seventeen digits always
suffice. -/
def shortest (units : Nat) : Decimal :=
  withoutTrailingZeros 17 (searchFrom units (interval units) 17 (decimalExponent units))

end Binary64

end Turnstile
