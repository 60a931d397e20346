import Turnstile.Claims
set_option autoImplicit false

/-! The time in which claims hold, in whole numbers without bounds. Saturation of the two ends to
64 bits changes nothing as long as the leeway has no sign. -/

namespace Turnstile.Claims

theorem toInt_leewayOf (seconds : Nat) :
    (leewayOf seconds).toInt = min (seconds : Int) 0x7fffffffffffffff := by
  rw [leewayOf, toInt_saturate]
  unfold Instant.clamp64
  omega

/-- A leeway taken off a second is exact, up to the lowest number of 64 bits. -/
theorem toInt_saturate_sub (second : Int64) (seconds : Nat) :
    (saturate (second.toInt - (leewayOf seconds).toInt)).toInt =
      max (-0x8000000000000000) (second.toInt - min (seconds : Int) 0x7fffffffffffffff) := by
  have high := Int64.toInt_lt second
  rw [toInt_saturate, toInt_leewayOf]
  unfold Instant.clamp64
  omega

theorem toInt_saturate_add (second : Int64) (seconds : Nat) :
    (saturate (second.toInt + (leewayOf seconds).toInt)).toInt =
      min 0x7fffffffffffffff (second.toInt + min (seconds : Int) 0x7fffffffffffffff) := by
  have low := Int64.le_toInt second
  rw [toInt_saturate, toInt_leewayOf]
  unfold Instant.clamp64
  omega

/-- Claims hold from their first second to their last, widened by the leeway at both ends. -/
theorem isLiveAt_leewayOf (claims : Claims) (now : Int64) (seconds : Nat) :
    claims.isLiveAt now (leewayOf seconds) = true ↔
      claims.notBefore.toInt - min (seconds : Int) 0x7fffffffffffffff ≤ now.toInt ∧
        now.toInt ≤ claims.expires.toInt + min (seconds : Int) 0x7fffffffffffffff := by
  have nowLow := Int64.le_toInt now
  have nowHigh := Int64.toInt_lt now
  rw [isLiveAt, Bool.and_eq_true, decide_eq_true_iff, decide_eq_true_iff, toInt_saturate_sub,
    toInt_saturate_add]
  omega

theorem isLiveAt_mono {claims : Claims} {now : Int64} {seconds more : Nat} (wider : seconds ≤ more)
    (live : claims.isLiveAt now (leewayOf seconds) = true) :
    claims.isLiveAt now (leewayOf more) = true := by
  obtain ⟨started, notEnded⟩ := (isLiveAt_leewayOf claims now seconds).mp live
  refine (isLiveAt_leewayOf claims now more).mpr ⟨?_, ?_⟩
  · omega
  · omega

end Turnstile.Claims
