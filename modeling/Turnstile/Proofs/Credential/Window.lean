import Turnstile.Proofs.Claims.Window
import Turnstile.Proofs.Credential.Reading
set_option autoImplicit false

/-! The window of validity under a leeway, whatever the seconds in the claims and however many
seconds of leeway a validator is given. Both ends may reach the limits of 64 bits at once, and the
window is still the one of numbers without limits. -/

namespace Turnstile

/-- A credential that is accepted with a leeway is accepted with every larger one, with the same
claims. -/
theorem Validator.validate_mono {keys : KeyStore} {audience : Option String} {now : Int64}
    {token : String} {claims : Claims} {seconds more : Nat} (wider : seconds ≤ more)
    (accepted : (Validator.mk keys (Claims.leewayOf seconds) audience).validate now token =
      .ok claims) :
    (Validator.mk keys (Claims.leewayOf more) audience).validate now token = .ok claims := by
  obtain ⟨pair, vouched⟩ := vouched_of_validate accepted
  obtain ⟨live, _⟩ := vouched.of_validate accepted
  have liveStill := Claims.isLiveAt_mono wider live
  rw [vouched.validate_eq, if_neg (by simp [live])] at accepted
  rw [vouched.validate_eq, if_neg (by simp [liveStill])]
  exact accepted

/-- The ends of the window are exact up to the limit that each of them can reach, and claims are live
exactly in the window that numbers without limits would give. A larger leeway loses nothing, neither
of what is live nor of what is accepted. -/
theorem Claims.window_exact (claims : Claims) (now : Int64) (seconds : Nat) :
    let leeway : Int := min (seconds : Int) 0x7fffffffffffffff
    (leewayOf seconds).toInt = leeway ∧
    (saturate (claims.notBefore.toInt - (leewayOf seconds).toInt)).toInt =
      max (-0x8000000000000000) (claims.notBefore.toInt - leeway) ∧
    (saturate (claims.expires.toInt + (leewayOf seconds).toInt)).toInt =
      min 0x7fffffffffffffff (claims.expires.toInt + leeway) ∧
    (claims.isLiveAt now (leewayOf seconds) = true ↔
      claims.notBefore.toInt - leeway ≤ now.toInt ∧ now.toInt ≤ claims.expires.toInt + leeway) ∧
    ∀ more, seconds ≤ more →
      (claims.isLiveAt now (leewayOf seconds) = true →
        claims.isLiveAt now (leewayOf more) = true) ∧
      ∀ keys audience token,
        (Validator.mk keys (leewayOf seconds) audience).validate now token = .ok claims →
          (Validator.mk keys (leewayOf more) audience).validate now token = .ok claims := by
  refine ⟨toInt_leewayOf seconds, toInt_saturate_sub _ seconds, toInt_saturate_add _ seconds,
    isLiveAt_leewayOf claims now seconds, ?_⟩
  intro more wider
  constructor
  · exact isLiveAt_mono wider
  · intro keys audience token
    exact Validator.validate_mono wider

end Turnstile
