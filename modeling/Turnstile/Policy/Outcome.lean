import Turnstile.Policy.DecodeVerify
set_option autoImplicit false

/-! What evaluating an expression comes to. Whatever uses an undefined value is
undefined too; a fault ends the whole evaluation. -/

namespace Turnstile.Policy

inductive Fault where
  | engine
  | tokenCheck (fault : ConstraintFault)
  deriving DecidableEq, Repr

namespace Fault

def message : Fault → String
  | engine => "<engine>"
  | tokenCheck fault => fault.message

end Fault

inductive Outcome (Result : Type) where
  | value (result : Result)
  | undefined
  | fault (fault : Fault)

namespace Outcome

variable {First Second : Type}

/-- Go on with a value; what is undefined or a fault stays so. -/
def andThen : Outcome First → (First → Outcome Second) → Outcome Second
  | value result, next => next result
  | undefined, _ => undefined
  | fault cause, _ => fault cause

def map (change : First → Second) : Outcome First → Outcome Second
  | value result => value (change result)
  | undefined => undefined
  | fault cause => fault cause

def ofOption : Option First → Outcome First
  | some result => value result
  | none => undefined

def expect : Option First → Outcome First
  | some result => value result
  | none => fault .engine

def toExcept : Outcome First → Except Fault (Option First)
  | value result => .ok (some result)
  | undefined => .ok none
  | fault cause => .error cause

end Outcome

end Turnstile.Policy
