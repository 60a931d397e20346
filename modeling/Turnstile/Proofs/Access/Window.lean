import Turnstile.Proofs.Access.Layers
import Turnstile.Proofs.Claims.Window
import Turnstile.Proofs.Policy.Window
set_option autoImplicit false

/-! Time in both layers. The validator widens the window of a credential by the leeway and reads the
clock in whole seconds; the policy knows no leeway and reads the clock in nanoseconds. So without a
leeway the layers judge a window alike at clear instants, and with one the window of the policy is
left. -/

namespace Turnstile

theorem Credential.Vouched.validate_of_tolerated {keys : KeyStore} {pair : KeyPair}
    {token : String} {claims : Claims} (vouched : Vouched keys pair token claims)
    {audience : Option String} (forAudience : audience = none ∨ audience = claims.audience)
    {leeway : Nat} {reading : Instant}
    (started : claims.notBefore.toInt - min (leeway : Int) 0x7fffffffffffffff ≤ reading.seconds)
    (notEnded : reading.seconds ≤ claims.expires.toInt + min (leeway : Int) 0x7fffffffffffffff) :
    (Validator.mk keys (Claims.leewayOf leeway) audience).validate (Int64.ofInt reading.seconds)
      token = .ok claims := by
  have inTime : claims.isLiveAt (Int64.ofInt reading.seconds) (Claims.leewayOf leeway) = true := by
    rw [Claims.isLiveAt_leewayOf, Instant.toInt_seconds]
    exact ⟨started, notEnded⟩
  have named : ¬ (audience ≠ none ∧ claims.audience ≠ audience) := by
    rintro ⟨asked, other⟩
    rcases forAudience with none | same
    · exact asked none
    · exact other same.symm
  rw [vouched.validate_eq, inTime, if_neg (by decide), if_neg named]

namespace AccessControl

open Policy (Clear Context decodeVerify insideWindow secondsAt)
open Policy.Embedded (tokenConstraints trustedIssuers)

section Vouched

variable {keys : KeyStore} {pair : KeyPair} {token : String} {claims : Claims}

/-- A token that validates is accepted if its issuer is trusted and its own window holds at the time
that the policy is told, whatever the leeway. -/
theorem authenticateAt_of_vouched (vouched : Credential.Vouched keys pair token claims)
    (only : Credential.OnlyKnownMembers token) {leeway : Int64} {audience : Option String}
    {validatedAt : Instant}
    (accepted : (Validator.mk keys leeway audience).validate (Int64.ofInt validatedAt.seconds)
      token = .ok claims)
    (judgedAt : Instant) {context : Context} (live : context.Live) :
    (AccessControl.mk ⟨keys, leeway, audience⟩ .embedded).authenticateAt context validatedAt
        judgedAt token =
      if claims.issuer ∈ trustedIssuers ∧ insideWindow claims.notBefore.toInt claims.expires.toInt
          (secondsAt judgedAt) = true then .ok claims
      else .error .denied := by
  obtain ⟨asked, found, _⟩ := vouched.exists_readAs
  obtain ⟨passes, denied, _⟩ :=
    authenticateAt_of_onlyKnownMembers ⟨keys, leeway, audience⟩ context judgedAt accepted only
  have accepts : Policy.Embedded.Accepts keys context.wallSeconds judgedAt token claims ↔
      claims.issuer ∈ trustedIssuers ∧ insideWindow claims.notBefore.toInt claims.expires.toInt
        (secondsAt judgedAt) = true := by
    rw [Policy.Embedded.accepts_iff asked found,
      Policy.Embedded.isSome_verdict_iff vouched only.onlyClaims]
    simp only [true_and]
  by_cases holds : claims.issuer ∈ trustedIssuers ∧ insideWindow claims.notBefore.toInt
      claims.expires.toInt (secondsAt judgedAt) = true
  · rw [if_pos holds]
    exact passes live (accepts.mpr holds)
  · rw [if_neg holds]
    exact denied live fun accepted => holds (accepts.mp accepted)

theorem authenticateAt_of_clear (vouched : Credential.Vouched keys pair token claims)
    (only : Credential.OnlyKnownMembers token) {leeway : Int64} {audience : Option String}
    {validatedAt judgedAt : Instant}
    (accepted : (Validator.mk keys leeway audience).validate (Int64.ofInt validatedAt.seconds)
      token = .ok claims)
    (clear : Clear judgedAt claims.notBefore.toInt claims.expires.toInt) {context : Context}
    (live : context.Live) :
    (AccessControl.mk ⟨keys, leeway, audience⟩ .embedded).authenticateAt context validatedAt
        judgedAt token =
      if claims.issuer ∈ trustedIssuers ∧ claims.notBefore.toInt ≤ judgedAt.seconds ∧
          judgedAt.seconds ≤ claims.expires.toInt then .ok claims
      else .error .denied := by
  rw [authenticateAt_of_vouched vouched only accepted judgedAt live]
  simp only [Policy.insideWindow_secondsAt clear]

/-- A token that validates is not denied if its issuer is trusted and the token check finds its
parts, whatever its header has. -/
theorem authenticateAt_ne_denied (vouched : Credential.Vouched keys pair token claims)
    {leeway : Int64} {audience : Option String} {validatedAt judgedAt : Instant}
    (accepted : (Validator.mk keys leeway audience).validate (Int64.ofInt validatedAt.seconds)
      token = .ok claims)
    {context : Context} (live : context.Live)
    (passes : claims.issuer ∈ trustedIssuers ∧
      (Policy.Embedded.verdict pair token claims.issuer judgedAt).isSome = true) :
    (AccessControl.mk ⟨keys, leeway, audience⟩ .embedded).authenticateAt context validatedAt
        judgedAt token ≠ .error .denied := by
  obtain ⟨asked, found, _⟩ := vouched.exists_readAs
  obtain ⟨kid, other, sameAsked, sameFound, judged⟩ :=
    authenticateAt_of_validate ⟨⟨keys, leeway, audience⟩, .embedded⟩ context judgedAt accepted
  rw [asked] at sameAsked
  cases sameAsked
  have samePair : other = pair := Option.some.inj (sameFound.symm.trans found)
  rw [judged, samePair, Policy.Engine.evaluateAuthentication_embedded, live.1, live.2]
  rcases Policy.Embedded.tokenCheck_publicPem context.wallSeconds pair token claims.issuer judgedAt
    with checked | fault
  · simp [Policy.Standing.check, checked, passes.1, passes.2]
  · simp [Policy.Standing.check, fault, AccessError.ofPolicy]

theorem isLiveAt_seconds_iff (claims : Claims) (now : Instant) :
    claims.isLiveAt (Int64.ofInt now.seconds) 0 = true ↔
      claims.notBefore.toInt ≤ now.seconds ∧ now.seconds ≤ claims.expires.toInt := by
  have none : (0 : Int64) = Claims.leewayOf 0 := by decide
  rw [none, Claims.isLiveAt_leewayOf, Instant.toInt_seconds]
  omega

/-- Without leeway the layers do not disagree about time at clear instants. The validator finds a
vouched token live exactly if the token check of the policy gives out its parts, and so no such
token is denied after it has validated. -/
theorem windows_agree (vouched : Credential.Vouched keys pair token claims)
    (only : Credential.OnlyClaims token) (trusted : claims.issuer ∈ trustedIssuers)
    {now : Instant} (clear : Clear now claims.notBefore.toInt claims.expires.toInt)
    (audience : Option String) (context : Context) :
    ((Validator.mk keys 0 audience).validate (Int64.ofInt now.seconds) token ≠ .error .notLive ↔
      ∃ parts, decodeVerify context.wallSeconds token
        (tokenConstraints pair.publicPem claims.issuer now) = .ok (some parts)) ∧
    (context.Live →
      (AccessControl.mk ⟨keys, 0, audience⟩ .embedded).authenticate context now token ≠
        .error .denied) := by
  have inWindow := isLiveAt_seconds_iff claims now
  constructor
  · rw [vouched.validate_ne_notLive_iff, inWindow,
      Policy.Embedded.decodeVerify_eq_some_iff vouched only, Policy.insideWindow_secondsAt clear]
    simp only [true_and]
  · intro live
    cases accepted : (Validator.mk keys 0 audience).validate (Int64.ofInt now.seconds) token with
    | error error => simp [authenticate, authenticateAt, accepted]
    | ok found =>
        obtain ⟨inTime, rfl⟩ := vouched.of_validate accepted
        apply authenticateAt_ne_denied vouched accepted live
        have passes := Policy.Embedded.isSome_verdict_iff vouched only found.issuer now
        rw [Policy.insideWindow_secondsAt clear] at passes
        exact ⟨trusted, passes.mpr ⟨rfl, inWindow.mp inTime⟩⟩

end Vouched

/-- In the middle of its window a credential is found live by both layers, and a second after the
window by none. -/
theorem windows_agree_example :
    ∃ token pair, Credential.Vouched exampleStore pair token exampleClaims ∧
      Credential.OnlyKnownMembers token ∧ exampleClaims.issuer ∈ trustedIssuers ∧
      (Validator.mk exampleStore 0 none).validate 300 token = .ok exampleClaims ∧
      (∃ parts, decodeVerify 0 token
        (tokenConstraints pair.publicPem "service project" (.ofSeconds 300)) = .ok (some parts)) ∧
      (Validator.mk exampleStore 0 none).validate 701 token = .error .notLive ∧
      ¬ ∃ parts, decodeVerify 0 token
        (tokenConstraints pair.publicPem "service project" (.ofSeconds 701)) =
          .ok (some parts) := by
  obtain ⟨token, issued⟩ := issueClaims_example
  obtain ⟨pair, _, _, vouched, only⟩ := Credential.vouched_of_issueClaims issued
  have trusted : exampleClaims.issuer ∈ trustedIssuers := by decide
  have validated := vouched.validate_eq 0 none
  obtain ⟨inside, _⟩ := windows_agree vouched only.onlyClaims trusted
    (Policy.clear_of_whole (by decide : (Instant.ofSeconds 300).seconds.natAbs ≤ _) rfl _ _) none
    ⟨.live, .live, 0⟩
  obtain ⟨after, _⟩ := windows_agree vouched only.onlyClaims trusted
    (Policy.clear_of_whole (by decide : (Instant.ofSeconds 701).seconds.natAbs ≤ _) rfl _ _) none
    ⟨.live, .live, 0⟩
  rw [validated] at inside after
  refine ⟨token, pair, vouched, only, trusted, ?_, inside.mp (by decide), ?_, ?_⟩
  · rw [validated]
    decide
  · rw [validated]
    decide
  · exact fun parts => after.mpr parts (by decide)

/-- Without leeway, the layers judge the window of some vouched token with these claims in different
ways, although the token has known members only and its issuer is trusted. -/
def WindowsDisagree (claims : Claims) (now : Instant) : Prop :=
  ∃ token pair, Credential.Vouched exampleStore pair token claims ∧
    Credential.OnlyKnownMembers token ∧ claims.issuer ∈ trustedIssuers ∧
    ¬ ((Validator.mk exampleStore 0 none).validate (Int64.ofInt now.seconds) token ≠
        .error .notLive ↔
      ∃ parts, decodeVerify 0 token (tokenConstraints pair.publicPem claims.issuer now) =
        .ok (some parts))

private theorem windowsDisagree_of {claims : Claims} {now : Instant}
    (made : (exampleStore.issueClaims "main" claims).isOk = true)
    (trusted : claims.issuer ∈ trustedIssuers)
    (differ : claims.isLiveAt (Int64.ofInt now.seconds) 0 ≠
      insideWindow claims.notBefore.toInt claims.expires.toInt (secondsAt now)) :
    WindowsDisagree claims now := by
  obtain ⟨token, issued⟩ := KeyStore.exists_token made
  obtain ⟨pair, _, _, vouched, only⟩ := Credential.vouched_of_issueClaims issued
  refine ⟨token, pair, vouched, only, trusted, ?_⟩
  rw [vouched.validate_ne_notLive_iff,
    Policy.Embedded.decodeVerify_eq_some_iff vouched only.onlyClaims]
  simp only [true_and]
  exact fun alike => differ (Bool.eq_iff_iff.mpr alike)

/-- Claims that hold where nanoseconds of 64 bits have run out. -/
def farClaims : Claims := { exampleClaims with notBefore := 9999999900, expires := 10000000600 }

/-- Claims that end in the first whole second that is no binary number of nanoseconds. -/
def lateClaims : Claims := { exampleClaims with notBefore := 4611686010, expires := 4611686019 }

/-- Claims that start in the last such second before 1970. -/
def earlyClaims : Claims := { exampleClaims with notBefore := -4611686019 }

/-- At other instants the layers can disagree: where nanoseconds have run out the policy is told
their bound, the last second of a window may be rounded past its end and its first before its start,
a nanosecond before its first second may be rounded into it, and a fraction of its last second is
past its end. -/
theorem windows_disagree :
    WindowsDisagree farClaims (.ofSeconds 10000000000) ∧
      WindowsDisagree lateClaims (.ofSeconds 4611686019) ∧
      WindowsDisagree earlyClaims (.ofSeconds (-4611686019)) ∧
      WindowsDisagree lateClaims ⟨4611686009, 999999999, by decide⟩ ∧
      WindowsDisagree exampleClaims ⟨700, 500000000, by decide⟩ := by
  have far : (exampleStore.issueClaims "main" farClaims).isOk = true := by decide +kernel
  have late : (exampleStore.issueClaims "main" lateClaims).isOk = true := by decide +kernel
  have early : (exampleStore.issueClaims "main" earlyClaims).isOk = true := by decide +kernel
  have near : (exampleStore.issueClaims "main" exampleClaims).isOk = true := by decide +kernel
  exact ⟨windowsDisagree_of far (by decide) (by decide +kernel),
    windowsDisagree_of late (by decide) (by decide +kernel),
    windowsDisagree_of early (by decide) (by decide +kernel),
    windowsDisagree_of late (by decide) (by decide +kernel),
    windowsDisagree_of near (by decide) (by decide +kernel)⟩

end AccessControl

end Turnstile
