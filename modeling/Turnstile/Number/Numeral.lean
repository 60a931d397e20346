import Turnstile.Number.Binary64
set_option autoImplicit false

/-! Numbers in decimal notation. A numeral without point and exponent is a whole
number as long as it fits 64 bits, with or without sign. Every other numeral is
a binary number: its leading digits, as many as fit 64 bits, are scaled by one
power of ten after the other, each step rounding. -/

namespace Turnstile

/-- A number as it is exchanged: a whole number of 64 bits, or a binary one. -/
inductive Number where
  | int (value : Int)
  | real (value : Binary64)
  deriving DecidableEq, Repr

namespace Number

def toBinary64 : Number → Binary64
  | int value => Binary64.ofInt value
  | real value => value

end Number

def largestWord : Nat := 0xffffffffffffffff

structure Numeral where
  negative : Bool
  whole : List Char
  /-- The digits after the point; none without a point. -/
  fraction : List Char
  /-- The exponent: whether it is negative, and its digits. -/
  exponent : Option (Bool × List Char)
  deriving DecidableEq, Repr

namespace Numeral

def exponent? : List Char → Option (Option (Bool × List Char))
  | [] => some none
  | mark :: rest =>
      if mark = 'e' ∨ mark = 'E' then
        let (negative, digits) := match rest with
          | '-' :: digits => (true, digits)
          | '+' :: digits => (false, digits)
          | digits => (false, digits)
        if !digits.isEmpty && digits.all Char.isDigit then some (some (negative, digits)) else none
      else none

def fraction? : List Char → Option (List Char × List Char)
  | '.' :: rest =>
      let digits := rest.takeWhile Char.isDigit
      if digits.isEmpty then none else some (digits, rest.dropWhile Char.isDigit)
  | rest => some ([], rest)

def unsigned? (negative : Bool) (text : List Char) : Option Numeral := do
  let whole := text.takeWhile Char.isDigit
  let (fraction, rest) ← fraction? (text.dropWhile Char.isDigit)
  let exponent ← exponent? rest
  match whole with
  | [] => none
  | '0' :: _ :: _ => none
  | _ => return ⟨negative, whole, fraction, exponent⟩

def read? : List Char → Option Numeral
  | '-' :: text => unsigned? true text
  | text => unsigned? false text

def digitValue (digit : Char) : Nat := digit.toNat - 48

/-- Append digits to a number as long as it fits 64 bits; the digits left over. -/
def accumulate : (value : Nat) → List Char → Nat × List Char
  | value, [] => (value, [])
  | value, digit :: rest =>
      let next := value * 10 + digitValue digit
      if next ≤ largestWord then accumulate next rest else (value, digit :: rest)

/-- Powers of ten up to this exponent are binary numbers. -/
def largestPower : Nat := 308

def powerOfTen (exponent : Nat) : Binary64 :=
  ⟨false, Binary64.roundUnits (Nat.pow 10 exponent * Binary64.unitsPerOne) 1⟩

/-- Divide by a power of ten, in steps of at most the largest power. Three steps
bring every number of 64 bits to zero. -/
def scaleDown : (steps : Nat) → Binary64 → (exponent : Nat) → Option Binary64
  | 0, value, _ => some value
  | steps + 1, value, exponent =>
      if exponent ≤ largestPower then value.div? (powerOfTen exponent)
      else if value.units = 0 then some value
      else do
        let smaller ← value.div? (powerOfTen largestPower)
        scaleDown steps smaller (exponent - largestPower)

def scale? (value : Binary64) (exponent : Int) : Option Binary64 :=
  if 0 ≤ exponent then
    if exponent.toNat ≤ largestPower then value.mul? (powerOfTen exponent.toNat)
    else if value.units = 0 then some value
    else none
  else scaleDown 4 value (-exponent).toNat

def real? (numeral : Numeral) : Option Binary64 := do
  let (leading, beyond) := accumulate 0 numeral.whole
  let (significand, unread) := accumulate leading numeral.fraction
  let shift : Int := (beyond.length : Int) - ((numeral.fraction.length - unread.length : Nat) : Int)
  let exponent : Int := match numeral.exponent with
    | none => 0
    | some (true, digits) => -(Nat.ofDigitChars 10 digits 0 : Int)
    | some (false, digits) => (Nat.ofDigitChars 10 digits 0 : Int)
  let magnitude ← scale? (Binary64.ofInt significand) (shift + exponent)
  return ⟨numeral.negative, magnitude.units⟩

def number? (numeral : Numeral) : Option Number :=
  let value := Nat.ofDigitChars 10 numeral.whole 0
  let isPlain := numeral.fraction.isEmpty && numeral.exponent.isNone
  if isPlain && !numeral.negative && value ≤ largestWord then some (.int value)
  else if isPlain && numeral.negative && 0 < value && value ≤ 0x8000000000000000 then
    some (.int (-(value : Int)))
  else numeral.real?.map .real

end Numeral

end Turnstile
