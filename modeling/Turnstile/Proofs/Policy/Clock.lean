import Turnstile.Policy.DecodeVerify
import Turnstile.Proofs.Instant
import Turnstile.Proofs.Number.Rounding
set_option autoImplicit false

/-! The time that the token check of policies judges at. Policies are told nanoseconds and the
check divides them into seconds, both as binary numbers. Not too far from 1970 neither rounding
carries the time past a whole second, and there the check judges a window of validity as whole
seconds do, unless a fraction of a second is at odds with one of its ends. -/

namespace Turnstile

namespace Policy

open Binary64 (Representable unitsPerOne representable_units)

/-- The seconds that the token check judges at when policies are told of an instant. -/
def secondsAt (now : Instant) : Binary64 := secondsOf (Number.int now.unixNanos).toBinary64

theorem nanosPerSecond_eq : nanosPerSecond = ⟨false, billion * unitsPerOne⟩ := by
  decide +kernel

/-- Up to here every whole second is a binary number also when it is counted in nanoseconds: of the
53 binary digits a billion takes 21 before its zeros begin, and seconds have the rest. -/
def exactSeconds : Nat := 4611686018

theorem representable_nanos {seconds : Int} (near : seconds.natAbs ≤ exactSeconds) :
    Representable (seconds * billion).natAbs := by
  refine ⟨seconds.natAbs * 1953125, 9, ?_, ?_⟩
  · unfold exactSeconds at near
    omega
  · unfold billion
    omega

theorem representable_seconds {seconds : Int} (near : seconds.natAbs ≤ exactSeconds) :
    Representable seconds.natAbs := by
  apply Binary64.representable_of_le
  unfold exactSeconds at near
  omega

private theorem nanosPerSecond_pos : 0 < nanosPerSecond.units := by
  rw [nanosPerSecond_eq]
  exact Nat.mul_pos (by decide) Binary64.unitsPerOne_pos

section Order

/-- The magnitude of seconds out of that of nanoseconds. -/
private def secondUnits (nanos : Nat) : Nat :=
  let quotient := Binary64.roundUnits (nanos * unitsPerOne) nanosPerSecond.units
  if quotient < Binary64.overflow then quotient else nanos

private theorem secondsOf_eq (nanos : Binary64) :
    secondsOf nanos = ⟨nanos.negative, secondUnits nanos.units⟩ := by
  have unsigned : nanosPerSecond.negative = false := by rw [nanosPerSecond_eq]
  unfold secondsOf Binary64.div? Binary64.finite? secondUnits
  rw [unsigned, Bool.bne_false]
  split
  · rw [if_pos ‹_›]
    rfl
  · rw [if_neg ‹_›]
    rfl

/-- Division by a billion makes nothing overflow that does not overflow itself. -/
private theorem overflow_le_of_quotient {nanos : Nat}
    (overflows : Binary64.overflow ≤
      Binary64.roundUnits (nanos * unitsPerOne) nanosPerSecond.units) :
    Binary64.overflow ≤ nanos := by
  apply Nat.le_of_not_lt
  intro finite
  have half : Binary64.overflow = 2 * 2 ^ 2097 := by decide +kernel
  have positive := Nat.two_pow_pos 2097
  have below : nanos * unitsPerOne ≤ 2 ^ 2097 * nanosPerSecond.units := by
    rw [nanosPerSecond_eq, ← Nat.mul_assoc]
    apply Nat.mul_le_mul_right
    unfold billion
    omega
  have rounded := Binary64.roundUnits_le nanosPerSecond_pos (Binary64.representable_pow _) below
  omega

private theorem secondUnits_mono {low high : Nat} (le : low ≤ high) :
    secondUnits low ≤ secondUnits high := by
  have rounded := Binary64.roundUnits_mono nanosPerSecond_pos (Nat.mul_le_mul_right unitsPerOne le)
  unfold secondUnits
  simp only
  split
  · split
    · exact rounded
    · have beyond := overflow_le_of_quotient (Nat.le_of_not_lt ‹_›)
      omega
  · rw [if_neg (by omega)]
    exact le

theorem secondsOf_mono {left right : Binary64} (le : left.value ≤ right.value) :
    (secondsOf left).value ≤ (secondsOf right).value := by
  rw [secondsOf_eq, secondsOf_eq]
  exact Binary64.value_mono (by decide +kernel) (fun _ _ => secondUnits_mono) le

end Order

section Seconds

variable (now : Instant)

private theorem exists_quotient :
    ∃ quotient, (Binary64.ofInt now.unixNanos).div? nanosPerSecond = some quotient ∧
      secondsAt now = quotient := by
  have representable : Representable (0x8000000000000000 * unitsPerOne) :=
    Representable.mul_unitsPerOne ⟨1, 63, by decide, by decide⟩
  have small : (Binary64.ofInt now.unixNanos).units ≤ 0x8000000000000000 * unitsPerOne := by
    apply Binary64.roundUnits_le Nat.one_pos representable
    have magnitude := Nat.mul_le_mul_right unitsPerOne now.natAbs_unixNanos_le
    exact Nat.le_trans magnitude (Nat.le_mul_of_pos_right _ Nat.one_pos)
  have below : (Binary64.ofInt now.unixNanos).units * unitsPerOne ≤
      0x8000000000000000 * unitsPerOne * nanosPerSecond.units := by
    rw [nanosPerSecond_eq]
    exact Nat.mul_le_mul small (Nat.le_mul_of_pos_left _ (by decide))
  obtain ⟨quotient, divides⟩ := Binary64.exists_div? nanosPerSecond_pos representable
    (by decide +kernel) below
  refine ⟨quotient, divides, ?_⟩
  rw [secondsAt, secondsOf, Number.toBinary64, divides]
  rfl

variable {now} {limit : Int}

private theorem secondsAt_le_units {nanos units : Int} (exactNanos : Representable nanos.natAbs)
    (exactUnits : Representable units.natAbs) (below : now.unixNanos ≤ nanos)
    (quotient : nanos * unitsPerOne ≤ units * billion) : (secondsAt now).value ≤ units := by
  obtain ⟨seconds, divides, same⟩ := exists_quotient now
  have rounded := Binary64.value_ofInt_le exactNanos below
  rw [same]
  apply Binary64.value_div_le divides (by rw [nanosPerSecond_eq]) nanosPerSecond_pos exactUnits
  calc (Binary64.ofInt now.unixNanos).value * unitsPerOne
      ≤ nanos * unitsPerOne * unitsPerOne :=
        Int.mul_le_mul_of_nonneg_right rounded (Int.natCast_nonneg _)
    _ ≤ units * billion * unitsPerOne :=
        Int.mul_le_mul_of_nonneg_right quotient (Int.natCast_nonneg _)
    _ = units * nanosPerSecond.units := by
        rw [nanosPerSecond_eq, Int.natCast_mul, Int.mul_assoc]

theorem secondsAt_le (near : limit.natAbs ≤ exactSeconds)
    (below : now.unixNanos ≤ limit * billion) :
    (secondsAt now).value ≤ limit * unitsPerOne := by
  apply secondsAt_le_units (representable_nanos near)
    (representable_units (representable_seconds near)) below
  exact Int.le_of_eq (Int.mul_right_comm limit billion unitsPerOne)

theorem le_secondsAt (near : limit.natAbs ≤ exactSeconds)
    (above : limit * billion ≤ now.unixNanos) :
    limit * unitsPerOne ≤ (secondsAt now).value := by
  obtain ⟨quotient, divides, same⟩ := exists_quotient now
  have nanos := Binary64.le_value_ofInt (representable_nanos near) above
  rw [same]
  apply Binary64.le_value_div divides (by rw [nanosPerSecond_eq]) nanosPerSecond_pos
    (representable_units (representable_seconds near))
  calc limit * unitsPerOne * nanosPerSecond.units
      = limit * billion * unitsPerOne * unitsPerOne := by
        rw [nanosPerSecond_eq, Int.natCast_mul, ← Int.mul_assoc, Int.mul_right_comm limit]
    _ ≤ (Binary64.ofInt now.unixNanos).value * unitsPerOne :=
        Int.mul_le_mul_of_nonneg_right nanos (Int.natCast_nonneg _)

/-- Nanoseconds over which rounding does not carry a time. So close to 1970 they are two steps from
one binary number of nanoseconds to the next, and more than one step of seconds. -/
def roundingMargin : Nat := 1024

/-- A time that is short of a whole second by the margin stays short of it. -/
theorem secondsAt_lt (near : limit.natAbs ≤ exactSeconds)
    (below : now.unixNanos + roundingMargin ≤ limit * billion) :
    (secondsAt now).value < limit * unitsPerOne := by
  obtain ⟨exponent, fine⟩ : ∃ exponent, unitsPerOne = 2 ^ 20 * 2 ^ exponent :=
    ⟨1054, by decide +kernel⟩
  have positive : 0 < 2 ^ exponent := Nat.two_pow_pos exponent
  unfold exactSeconds at near
  have exactNanos : Representable (limit * billion - roundingMargin).natAbs := by
    refine ⟨(limit * 1953125 - 2).natAbs, 9, by omega, ?_⟩
    unfold billion roundingMargin
    omega
  have exactUnits : Representable ((limit * 2 ^ 20 - 1) * ((2 ^ exponent : Nat) : Int)).natAbs := by
    rw [Int.natAbs_mul, Int.natAbs_natCast]
    exact (Binary64.representable_of_le (by omega)).mul_pow exponent
  generalize 2 ^ exponent = step at fine positive exactUnits
  have whole : limit * (unitsPerOne : Int) = limit * 2 ^ 20 * step := by
    rw [fine, Int.natCast_mul, Int.mul_assoc]
    rfl
  have short : (secondsAt now).value ≤ (limit * 2 ^ 20 - 1) * step := by
    apply secondsAt_le_units exactNanos exactUnits (by omega)
    rw [fine, Int.natCast_mul, ← Int.mul_assoc, Int.mul_right_comm _ (step : Int)]
    apply Int.mul_le_mul_of_nonneg_right _ (Int.natCast_nonneg _)
    unfold billion roundingMargin
    omega
  rw [whole]
  rw [Int.sub_mul] at short
  omega

end Seconds

/-! ### Windows of validity -/

/-- The token check finds a time inside a window, both ends included. -/
def insideWindow (notBefore expires : Int) (seconds : Binary64) : Bool :=
  seconds.le (.ofInt expires) && (Binary64.ofInt notBefore).le seconds

/-- Instants at which a window is judged alike with and without the fractions of seconds. They are
not too far from 1970, not past the end of the window while their second is not, and not so little
short of its start that rounding carries them there while their second is short of it too. -/
structure Clear (now : Instant) (notBefore expires : Int) : Prop where
  early : -exactSeconds ≤ now.seconds
  late : now.sinceEpoch ≤ exactSeconds * billion
  ending : now.seconds ≤ expires → now.sinceEpoch ≤ expires * billion
  starting : now.seconds < notBefore → now.sinceEpoch + roundingMargin ≤ notBefore * billion

section Windows

variable {now : Instant} {notBefore expires : Int}

theorem clear_of_whole (near : now.seconds.natAbs ≤ exactSeconds) (whole : now.nanos = 0)
    (notBefore expires : Int) : Clear now notBefore expires := by
  have exact : now.sinceEpoch = now.seconds * billion := by
    rw [Instant.sinceEpoch, whole]
    omega
  constructor
  case early => omega
  case late =>
    rw [exact]
    exact Int.mul_le_mul_of_nonneg_right (by omega) (Int.natCast_nonneg _)
  case ending =>
    intro notEnded
    rw [exact]
    exact Int.mul_le_mul_of_nonneg_right notEnded (Int.natCast_nonneg _)
  case starting =>
    intro notStarted
    rw [exact]
    unfold roundingMargin billion
    omega

section Cleared

variable (clear : Clear now notBefore expires)

include clear

theorem Clear.near : now.seconds.natAbs ≤ exactSeconds := by
  have early := clear.early
  have late := clear.late
  unfold Instant.sinceEpoch billion at late
  omega

theorem Clear.unixNanos_eq : now.unixNanos = now.sinceEpoch := by
  have early := clear.early
  have late := clear.late
  unfold exactSeconds at early late
  apply Instant.unixNanos_eq_sinceEpoch
  · unfold Instant.sinceEpoch billion
    omega
  · unfold billion at late
    omega

private theorem Clear.seconds_le : now.seconds * unitsPerOne ≤ (secondsAt now).value := by
  apply le_secondsAt clear.near
  rw [clear.unixNanos_eq, Instant.sinceEpoch]
  omega

/-- At clear instants the token check judges the end of a window as whole seconds do. -/
theorem Clear.le_expires_iff :
    (secondsAt now).value ≤ (Binary64.ofInt expires).value ↔ now.seconds ≤ expires := by
  have near := clear.near
  have late := clear.late
  constructor
  · intro notEnded
    unfold exactSeconds at near
    exact (Binary64.le_value_ofInt_iff (by omega)).mp (Int.le_trans clear.seconds_le notEnded)
  · intro notEnded
    have ending := clear.ending notEnded
    have below : now.unixNanos ≤ min expires exactSeconds * billion := by
      rw [clear.unixNanos_eq]
      unfold billion at *
      omega
    have nearEnd : (min expires (exactSeconds : Int)).natAbs ≤ exactSeconds := by omega
    apply Int.le_trans (secondsAt_le nearEnd below)
    unfold exactSeconds at nearEnd
    exact (Binary64.le_value_ofInt_iff (by unfold exactSeconds; omega)).mpr (Int.min_le_left _ _)

theorem Clear.notBefore_le_iff :
    (Binary64.ofInt notBefore).value ≤ (secondsAt now).value ↔ notBefore ≤ now.seconds := by
  have near := clear.near
  have late := clear.late
  constructor
  · intro started
    apply Int.not_lt.mp
    intro notStarted
    have starting := clear.starting notStarted
    apply Int.not_lt.mpr started
    by_cases nearStart : notBefore ≤ exactSeconds
    · calc (secondsAt now).value
          < notBefore * unitsPerOne := secondsAt_lt (by omega) (clear.unixNanos_eq ▸ starting)
        _ ≤ (Binary64.ofInt notBefore).value :=
          (Binary64.le_value_ofInt_iff (by unfold exactSeconds at *; omega)).mpr (Int.le_refl _)
    · calc (secondsAt now).value
          ≤ exactSeconds * unitsPerOne := secondsAt_le (by omega) (clear.unixNanos_eq ▸ late)
        _ < (exactSeconds + 1) * unitsPerOne := by
          have positive := Binary64.unitsPerOne_pos
          rw [Int.add_mul]
          omega
        _ ≤ (Binary64.ofInt notBefore).value :=
          (Binary64.le_value_ofInt_iff (by unfold exactSeconds; omega)).mpr (by omega)
  · intro started
    unfold exactSeconds at near
    exact Int.le_trans ((Binary64.value_ofInt_le_iff (by omega)).mpr started) clear.seconds_le

theorem insideWindow_secondsAt :
    insideWindow notBefore expires (secondsAt now) = true ↔
      notBefore ≤ now.seconds ∧ now.seconds ≤ expires := by
  rw [insideWindow, Binary64.le, Binary64.le, Bool.and_eq_true, decide_eq_true_iff,
    decide_eq_true_iff, clear.le_expires_iff, clear.notBefore_le_iff, and_comm]

end Cleared

end Windows

end Policy

end Turnstile
