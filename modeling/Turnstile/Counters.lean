set_option autoImplicit false

/-! Counts of decisions, one for each stage and outcome. Counts are 64-bit words
and start again from zero beyond the largest. -/

namespace Turnstile

inductive Outcome where
  | allowed
  | denied
  | failed
  deriving DecidableEq, Repr

inductive Stage where
  | authentication
  | authorization
  deriving DecidableEq, Repr

structure Tally where
  allowed : UInt64 := 0
  denied : UInt64 := 0
  failed : UInt64 := 0
  deriving DecidableEq, Repr

namespace Tally

def record (tally : Tally) : Outcome → Tally
  | .allowed => { tally with allowed := tally.allowed + 1 }
  | .denied => { tally with denied := tally.denied + 1 }
  | .failed => { tally with failed := tally.failed + 1 }

def count (tally : Tally) : Outcome → UInt64
  | .allowed => tally.allowed
  | .denied => tally.denied
  | .failed => tally.failed

/-- One outcome more is one more of its count and of no other. -/
theorem count_record (tally : Tally) (outcome other : Outcome) :
    (tally.record outcome).count other =
      tally.count other + if outcome = other then 1 else 0 := by
  cases outcome <;> cases other <;> simp [record, count]

end Tally

structure Counters where
  authentication : Tally := {}
  authorization : Tally := {}
  deriving DecidableEq, Repr

namespace Counters

def record (counters : Counters) : Stage → Outcome → Counters
  | .authentication, outcome =>
      { counters with authentication := counters.authentication.record outcome }
  | .authorization, outcome =>
      { counters with authorization := counters.authorization.record outcome }

def count (counters : Counters) : Stage → Outcome → UInt64
  | .authentication, outcome => counters.authentication.count outcome
  | .authorization, outcome => counters.authorization.count outcome

/-- One outcome more is one more of the count of its stage and of no other. -/
theorem count_record (counters : Counters) (stage otherStage : Stage) (outcome other : Outcome) :
    (counters.record stage outcome).count otherStage other =
      counters.count otherStage other +
        if stage = otherStage ∧ outcome = other then 1 else 0 := by
  cases stage <;> cases otherStage <;> simp [record, count, Tally.count_record]

end Counters

end Turnstile
