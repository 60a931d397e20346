import Turnstile.Access
set_option autoImplicit false

/-! The state of a running service: what decides on access, the counts of decisions,
and how long callers wait. Every call to authenticate or authorize is counted
once. -/

namespace Turnstile

structure Service where
  access : AccessControl
  counters : Counters := {}
  /-- Milliseconds that one evaluation of a policy may take, if bounded. -/
  policyTimeout : Option Nat := none
  stopping : Bool := false

structure Pace where
  before : Nat := 0
  after : Nat := 0
  deriving DecidableEq, Repr

structure Moment where
  now : Instant
  authentication : Policy.Context
  authorization : Policy.Context

namespace Service

/-- How a caller stands some milliseconds into an evaluation. -/
def standing (service : Service) (elapsed : Nat) : Policy.Standing :=
  .of service.stopping (service.policyTimeout.any (· ≤ elapsed))

def context (service : Service) (wallSeconds : Int) (pace : Pace) : Policy.Context :=
  ⟨service.standing pace.before, service.standing pace.after, wallSeconds⟩

/-- The circumstances of a request, with the paces of the two evaluations that it may
need. -/
def moment (service : Service) (now : Instant) (wallSeconds : Int)
    (authentication authorization : Pace) : Moment :=
  ⟨now, service.context wallSeconds authentication, service.context wallSeconds authorization⟩

def record (service : Service) (stage : Stage) (outcome : Outcome) : Service :=
  { service with counters := service.counters.record stage outcome }

def authenticate (service : Service) (context : Policy.Context) (now : Instant)
    (token : String) : Except AccessError Claims × Service :=
  let result := service.access.authenticate context now token
  (result, service.record .authentication (.ofResult result))

def authorize (service : Service) (context : Policy.Context) (claims : Claims)
    (rule : AccessRule) : Except AccessError Unit × Service :=
  let result := service.access.authorize context claims rule
  (result, service.record .authorization (.ofResult result))

def stop (service : Service) : Service := { service with stopping := true }

end Service

end Turnstile
