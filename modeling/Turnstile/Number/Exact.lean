import Turnstile.Number.Numeral
import Turnstile.Number.Shortest
set_option autoImplicit false

/-! Exact decimal numbers. Sums, differences and products are exact; a quotient is
cut off far beyond the digits that binary numbers tell apart. -/

namespace Turnstile

/-- The number `significand` divided by ten to the power `scale`. The scale is the
least one, so equal numbers are written alike. -/
structure Exact where
  significand : Int
  scale : Nat
  deriving DecidableEq, Repr

namespace Exact

def reduce (significand : Int) : (scale : Nat) → Exact
  | 0 => ⟨significand, 0⟩
  | scale + 1 =>
      if significand % 10 = 0 then reduce (significand / 10) scale else ⟨significand, scale + 1⟩

def ofInt (value : Int) : Exact := ⟨value, 0⟩

def scaled (significand : Int) (exponent : Int) : Exact :=
  if 0 ≤ exponent then ⟨significand * (Nat.pow 10 exponent.toNat : Nat), 0⟩
  else reduce significand (-exponent).toNat

def ofBinary64 (value : Binary64) : Exact :=
  if value.units = 0 then ofInt 0
  else
    let decimal := Binary64.shortest value.units
    scaled (if value.negative then -(decimal.digits : Int) else decimal.digits) decimal.exponent

def ofNumber : Number → Exact
  | .int value => ofInt value
  | .real value => ofBinary64 value

/-- How many places behind the point are told apart from none. -/
def smallestPlace : Nat := 400

def ofNumeral (numeral : Numeral) : Exact :=
  let digits := numeral.whole ++ numeral.fraction
  let magnitude := Nat.ofDigitChars 10 digits 0
  let exponent : Int := match numeral.exponent with
    | none => 0
    | some (true, digits) => -(Nat.ofDigitChars 10 digits 0 : Int)
    | some (false, digits) => (Nat.ofDigitChars 10 digits 0 : Int)
  let place := exponent - (numeral.fraction.length : Int)
  if magnitude = 0 ∨ place < -((digits.length + smallestPlace : Nat) : Int) then ofInt 0
  else scaled (if numeral.negative then -(magnitude : Int) else magnitude) place

def number? (value : Exact) : Option Number :=
  if value.scale = 0 ∧ -0x8000000000000000 ≤ value.significand ∧
      value.significand ≤ (largestWord : Int) then
    some (.int value.significand)
  else
    (Binary64.ofRatio? (decide (value.significand < 0)) value.significand.natAbs
      (Nat.pow 10 value.scale)).map .real

def atScale (value : Exact) (scale : Nat) : Int :=
  value.significand * (Nat.pow 10 (scale - value.scale) : Nat)

def order (left right : Exact) : Ordering :=
  let scale := max left.scale right.scale
  if left.atScale scale < right.atScale scale then .lt
  else if left.atScale scale = right.atScale scale then .eq
  else .gt

def neg (value : Exact) : Exact := ⟨-value.significand, value.scale⟩

def add (left right : Exact) : Exact :=
  let scale := max left.scale right.scale
  reduce (left.atScale scale + right.atScale scale) scale

def sub (left right : Exact) : Exact :=
  let scale := max left.scale right.scale
  reduce (left.atScale scale - right.atScale scale) scale

def mul (left right : Exact) : Exact :=
  reduce (left.significand * right.significand) (left.scale + right.scale)

def quotientDigits : Nat := 100

def div? (left right : Exact) : Option Exact :=
  if right.significand = 0 then none
  else
    let scale := max left.scale right.scale
    let divisor := right.atScale scale
    let places := quotientDigits + (Nat.toDigits 10 divisor.natAbs).length
    some (reduce (Int.tdiv (left.atScale scale * (Nat.pow 10 places : Nat)) divisor) places)

def rem? (left right : Exact) : Option Exact :=
  if left.scale = 0 ∧ right.scale = 0 ∧ right.significand ≠ 0 then
    some (ofInt (Int.tmod left.significand right.significand))
  else none

def place? (value : Exact) : Option Nat :=
  if value.scale = 0 ∧ 0 ≤ value.significand then some value.significand.toNat else none

theorem number?_ofInt {value : Int} (low : -0x8000000000000000 ≤ value)
    (high : value ≤ (largestWord : Int)) : (ofInt value).number? = some (.int value) := by
  simp [number?, ofInt, low, high]

end Exact

end Turnstile
