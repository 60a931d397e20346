import Turnstile.Proofs.Access.Window
import Turnstile.Proofs.Credential.Issued
set_option autoImplicit false

/-! Issued credentials end to end. What is issued on request is accepted with the claims asked for
from the second of issuing to the end of the lifetime, and its roles decide what it gives access
to. -/

namespace Turnstile

namespace AccessControl

open Policy (Clear Context)
open Policy.Embedded (trustedIssuers)

/-- For a caller that waits, the embedded policies decide access by the roles alone. -/
theorem authorize_of_live (validator : Validator) {context : Context} (live : context.Live)
    (claims : Claims) (rule : AccessRule) :
    (AccessControl.mk validator .embedded).authorize context claims rule =
      if rule.grants claims.roles = true then .ok () else .error (.forbidden rule) := by
  simp only [authorize, Policy.Engine.evaluateAuthorization_embedded, live.1, live.2,
    Policy.Standing.check]
  cases rule.grants claims.roles <;> rfl

/-- A reading of the clock, outside leap seconds, in the time from one second to another. -/
structure Within (first last : Int) (reading : Instant) : Prop where
  noLeap : reading.nanos < billion
  started : first * billion ≤ reading.sinceEpoch
  notEnded : reading.sinceEpoch ≤ last * billion

theorem Within.seconds {first last : Int} {reading : Instant}
    (within : Within first last reading) : first ≤ reading.seconds ∧ reading.seconds ≤ last := by
  obtain ⟨noLeap, started, notEnded⟩ := within
  unfold Instant.sinceEpoch billion at *
  omega

theorem Within.clear {first last : Int} {reading : Instant} (within : Within first last reading)
    (low : 0 ≤ first) (high : last ≤ Policy.exactSeconds) : Clear reading first last := by
  obtain ⟨started, notEnded⟩ := within.seconds
  constructor
  case early => omega
  case late => exact Int.le_trans within.notEnded (Int.mul_le_mul_of_nonneg_right high (by decide))
  case ending => exact fun _ => within.notEnded
  case starting => exact fun before => absurd started (by omega)

/-- What is issued on request outside leap seconds, after 1970 and with an end that is not too far
from it, is accepted at all readings of the clock from the second of issuing to the end, whatever
the leeway, if its issuer is trusted, and denied otherwise. The claims are those asked for, and
their roles alone decide access. -/
theorem authenticate_of_issue {keys : KeyStore} {now : Instant} {tokenId token : String}
    {request : CredentialRequest} (issued : keys.issue now tokenId request = .ok token)
    (noLeap : now.nanos < billion) (early : 0 ≤ now.seconds)
    (late : (now.sinceEpoch + request.lifetime) / billion ≤ Policy.exactSeconds)
    {validatedAt judgedAt : Instant}
    (validated : Within now.seconds ((now.sinceEpoch + request.lifetime) / billion) validatedAt)
    (judged : Within now.seconds ((now.sinceEpoch + request.lifetime) / billion) judgedAt)
    (leeway : Nat) {audience : Option String}
    (forAudience : audience = none ∨ audience = request.audience) {context : Context}
    (live : context.Live) :
    let access := AccessControl.mk ⟨keys, Claims.leewayOf leeway, audience⟩ .embedded
    ∃ claims, request.Grants now claims ∧
      access.authenticateAt context validatedAt judgedAt token =
        (if request.issuer = "service project" then .ok claims else .error .denied) ∧
      ∀ rule, access.authorize context claims rule =
        if rule.grants request.roles.eraseDups = true then .ok ()
        else .error (.forbidden rule) := by
  intro access
  obtain ⟨claims, signed, grants⟩ := KeyStore.issueClaims_of_issue noLeap issued
  obtain ⟨pair, _, _, vouched, only⟩ := Credential.vouched_of_issueClaims signed
  obtain ⟨started, notEnded⟩ := validated.seconds
  have accepted : (Validator.mk keys (Claims.leewayOf leeway) audience).validate
      (Int64.ofInt validatedAt.seconds) token = .ok claims := by
    apply vouched.validate_of_tolerated (grants.audience ▸ forAudience)
    · rw [grants.notBefore]
      omega
    · rw [grants.expires]
      omega
  have clear : Clear judgedAt claims.notBefore.toInt claims.expires.toInt := by
    rw [grants.notBefore, grants.expires]
    exact judged.clear early late
  refine ⟨claims, grants, ?_, ?_⟩
  · rw [authenticateAt_of_clear vouched only accepted clear live]
    simp only [grants.notBefore, grants.expires, judged.seconds, grants.issuer, trustedIssuers,
      List.mem_singleton, and_self, and_true]
  · intro rule
    rw [authorize_of_live _ live, grants.roles]

/-- A request that names a role twice. -/
def exampleRequest : CredentialRequest :=
  ⟨"main", "ann", "service project", some "api", [.user, .admin, .user], 2700000000⟩

def issuingInstant : Instant := ⟨100, 500000000, by decide⟩

theorem issue_example :
    ∃ token, exampleStore.issue issuingInstant "1" exampleRequest = .ok token := by
  have made : (exampleStore.issue issuingInstant "1" exampleRequest).isOk = true := by
    decide +kernel
  cases issued : exampleStore.issue issuingInstant "1" exampleRequest with
  | ok token => exact ⟨token, rfl⟩
  | error error =>
      rw [issued] at made
      cases made

/-- A lifetime of 2.7 seconds from half a second past 100 ends in second 103, up to its start. -/
theorem authenticate_of_issue_example :
    ∃ token claims, exampleStore.issue issuingInstant "1" exampleRequest = .ok token ∧
      claims.notBefore.toInt = 100 ∧ claims.expires.toInt = 103 ∧
      claims.roles = [.user, .admin] ∧
      (AccessControl.mk ⟨exampleStore, Claims.leewayOf 60, some "api"⟩ .embedded).authenticateAt
          ⟨.live, .live, 0⟩ ⟨102, 999999999, by decide⟩ (.ofSeconds 103) token = .ok claims ∧
      (AccessControl.mk ⟨exampleStore, Claims.leewayOf 60, some "api"⟩ .embedded).authorize
          ⟨.live, .live, 0⟩ claims .adminOnly = .ok () := by
  obtain ⟨token, issued⟩ := issue_example
  have finish : (issuingInstant.sinceEpoch + exampleRequest.lifetime) / billion = 103 := by decide
  have before : Within 100 103 ⟨102, 999999999, by decide⟩ := ⟨by decide, by decide, by decide⟩
  have atEnd : Within 100 103 (.ofSeconds 103) := ⟨by decide, by decide, by decide⟩
  obtain ⟨claims, grants, accepted, allowed⟩ := authenticate_of_issue issued (by decide) (by decide)
    (by decide) (finish ▸ before) (finish ▸ atEnd) 60 (Or.inr rfl)
    (⟨rfl, rfl⟩ : Context.Live ⟨.live, .live, 0⟩)
  refine ⟨token, claims, issued, grants.notBefore, ?_, ?_, accepted, allowed .adminOnly⟩
  · rw [grants.expires, finish]
  · rw [grants.roles]
    decide

/-! ### Leeway -/

/-- A leeway widens the window of the validator, but at whole seconds outside its own window an
issued credential is denied by the policy all the same. -/
theorem authenticate_of_tolerated {keys : KeyStore} {kid token : String} {claims : Claims}
    (issued : keys.issueClaims kid claims = .ok token) (trusted : claims.issuer ∈ trustedIssuers)
    (leeway : Nat) {audience : Option String}
    (forAudience : audience = none ∨ audience = claims.audience) {now : Instant}
    (near : now.seconds.natAbs ≤ Policy.exactSeconds) (whole : now.nanos = 0)
    (started : claims.notBefore.toInt - min (leeway : Int) 0x7fffffffffffffff ≤ now.seconds)
    (notEnded : now.seconds ≤ claims.expires.toInt + min (leeway : Int) 0x7fffffffffffffff)
    {context : Context} (live : context.Live) :
    let access := AccessControl.mk ⟨keys, Claims.leewayOf leeway, audience⟩ .embedded
    access.validator.validate (Int64.ofInt now.seconds) token = .ok claims ∧
      access.authenticate context now token =
        if claims.notBefore.toInt ≤ now.seconds ∧ now.seconds ≤ claims.expires.toInt then .ok claims
        else .error .denied := by
  intro access
  obtain ⟨pair, _, _, vouched, only⟩ := Credential.vouched_of_issueClaims issued
  have accepted := vouched.validate_of_tolerated forAudience started notEnded
  refine ⟨accepted, ?_⟩
  rw [authenticate,
    authenticateAt_of_clear vouched only accepted (Policy.clear_of_whole near whole _ _) live]
  simp only [trusted, true_and]

/-- Half a minute past its end a credential is within a leeway of a minute. It validates, and is
denied. -/
theorem authenticate_of_tolerated_example :
    ∃ token, exampleStore.issueClaims "main" exampleClaims = .ok token ∧
      exampleClaims.expires.toInt < 730 ∧ 730 ≤ exampleClaims.expires.toInt + 60 ∧
      (Validator.mk exampleStore (Claims.leewayOf 60) none).validate 730 token =
        .ok exampleClaims ∧
      (AccessControl.mk ⟨exampleStore, Claims.leewayOf 60, none⟩ .embedded).authenticate
          ⟨.live, .live, 0⟩ (.ofSeconds 730) token = .error .denied := by
  obtain ⟨token, issued⟩ := issueClaims_example
  have near : (Instant.ofSeconds 730).seconds.natAbs ≤ Policy.exactSeconds := by decide
  have live : Context.Live ⟨.live, .live, 0⟩ := ⟨rfl, rfl⟩
  obtain ⟨accepted, denied⟩ := authenticate_of_tolerated issued (by decide) 60
    (Or.inl rfl) near rfl (by decide) (by decide) live
  rw [if_neg (by decide)] at denied
  exact ⟨token, issued, by decide, by decide, accepted, denied⟩

end AccessControl

end Turnstile
