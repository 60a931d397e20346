set_option autoImplicit false

/-! Counts as operators write them: decimal digits, perhaps behind one plus sign.
They are read from the left, and the first digit that is none, or that would
exceed the bound, ends the reading. -/

namespace Turnstile.Count

inductive Fault where
  | digit
  | tooLarge
  deriving DecidableEq, Repr

namespace Fault

def message : Fault → String
  | digit => "invalid digit found in string"
  | tooLarge => "number too large to fit in target type"

end Fault

def digit? (char : Char) : Option Nat :=
  if '0' ≤ char && char ≤ '9' then some (char.toNat - '0'.toNat) else none

def readDigits (bound : Nat) : (value : Nat) → List Char → Except Fault Nat
  | value, [] => .ok value
  | value, char :: rest =>
      match digit? char with
      | none => .error .digit
      | some digit =>
          if value * 10 + digit ≤ bound then readDigits bound (value * 10 + digit) rest
          else .error .tooLarge

def withoutSign : List Char → List Char
  | '+' :: rest => rest
  | text => text

def read (bound : Nat) (text : List Char) : Except Fault Nat :=
  if (withoutSign text).isEmpty then .error .digit else readDigits bound 0 (withoutSign text)

def largest16 : Nat := 0xffff
def largest64 : Nat := 0xffffffffffffffff

end Turnstile.Count
