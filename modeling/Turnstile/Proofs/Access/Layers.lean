import Turnstile.Proofs.Access.Decisions
import Turnstile.Proofs.Policy.Window
set_option autoImplicit false

/-! Both layers in front of a service. The validator looks at a token first; what it lets through
is judged by the embedded policy. Neither layer accepts in place of the other. -/

namespace Turnstile

theorem Validator.key_of_validate {validator : Validator} {seconds : Int64} {token : String}
    {claims : Claims} (accepted : validator.validate seconds token = .ok claims) :
    ∃ kid pair, Credential.kid token = .ok kid ∧ validator.keys.get? kid = some pair := by
  obtain ⟨compact, hint, pair, parsed, _, found, _⟩ := (validate_eq_ok_iff _ _ _ _).mp accepted
  exact ⟨hint.kid, pair, by rw [Credential.kid, parsed]; rfl, found⟩

/-- What the embedded policy asks of a token with claims: that the issuer is trusted, and that the
token check finds the parts of the token under the key that its header asks for, for this issuer
and at this time. -/
structure Policy.Embedded.Accepts (keys : KeyStore) (wallSeconds : Int) (now : Instant)
    (token : String) (claims : Claims) : Prop where
  trusted : claims.issuer ∈ trustedIssuers
  checked : ∃ kid pair parts, Credential.kid token = .ok kid ∧ keys.get? kid = some pair ∧
    decodeVerify wallSeconds token (tokenConstraints pair.publicPem claims.issuer now) =
      .ok (some parts)

theorem Policy.Embedded.accepts_iff {keys : KeyStore} {token kid : String} {pair : KeyPair}
    (asked : Credential.kid token = .ok kid) (found : keys.get? kid = some pair)
    (wallSeconds : Int) (now : Instant) (claims : Claims) :
    Accepts keys wallSeconds now token claims ↔
      claims.issuer ∈ trustedIssuers ∧
        (verdict pair token claims.issuer now).isSome = true := by
  constructor
  · rintro ⟨trusted, other, otherPair, parts, sameKid, samePair, accepted⟩
    rw [asked] at sameKid
    cases sameKid
    rw [found] at samePair
    cases samePair
    rw [decodeVerify_publicPem] at accepted
    exact ⟨trusted, by rw [Except.ok.inj accepted]; rfl⟩
  · rintro ⟨trusted, accepted⟩
    obtain ⟨parts, checked⟩ := Option.isSome_iff_exists.mp accepted
    exact ⟨trusted, kid, pair, parts, asked, found, by rw [decodeVerify_publicPem, checked]⟩

theorem AccessError.ofPolicy_of_check {standing : Policy.Standing} (gone : standing ≠ .live) :
    ∃ error, standing.check = .error error ∧ ofPolicy error = .cancelled := by
  cases standing with
  | live => exact absurd rfl gone
  | cancelled => exact ⟨.cancelled, rfl, rfl⟩
  | expired => exact ⟨.deadlineExceeded, rfl, rfl⟩

namespace AccessControl

theorem authenticateAt_of_validate (access : AccessControl) (context : Policy.Context)
    {validatedAt : Instant} (judgedAt : Instant) {token : String} {claims : Claims}
    (accepted : access.validator.validate (Int64.ofInt validatedAt.seconds) token = .ok claims) :
    ∃ kid pair, Credential.kid token = .ok kid ∧ access.keys.get? kid = some pair ∧
      access.authenticateAt context validatedAt judgedAt token =
        match access.engine.evaluateAuthentication context judgedAt pair.publicPem token
            claims.issuer with
        | .error error => .error (.ofPolicy error)
        | .ok false => .error .denied
        | .ok true => .ok claims := by
  obtain ⟨kid, pair, asked, found⟩ := Validator.key_of_validate accepted
  have loaded : access.keys.get? kid = some pair := found
  refine ⟨kid, pair, asked, loaded, ?_⟩
  cases decided : access.engine.evaluateAuthentication context judgedAt pair.publicPem token
      claims.issuer with
  | error error => simp only [authenticateAt, accepted, judge, asked, loaded, decided]
  | ok allowed =>
      cases allowed <;> simp only [authenticateAt, accepted, judge, asked, loaded, decided]

theorem authenticateAt_of_invalid (access : AccessControl) (context : Policy.Context)
    {validatedAt : Instant} (judgedAt : Instant) {token : String} {error : CredentialError}
    (refused : access.validator.validate (Int64.ofInt validatedAt.seconds) token = .error error) :
    access.authenticateAt context validatedAt judgedAt token = .error (.unauthenticated error) := by
  simp only [authenticateAt, refused]

theorem authenticateAt_eq_cancelled (access : AccessControl) {context : Policy.Context}
    {validatedAt : Instant} (judgedAt : Instant) {token : String} {claims : Claims}
    (accepted : access.validator.validate (Int64.ofInt validatedAt.seconds) token = .ok claims)
    (gone : context.before ≠ .live) :
    access.authenticateAt context validatedAt judgedAt token = .error .cancelled := by
  obtain ⟨kid, pair, _, _, judged⟩ := authenticateAt_of_validate access context judgedAt accepted
  obtain ⟨error, checked, cancelled⟩ := AccessError.ofPolicy_of_check gone
  rw [judged, Policy.Engine.evaluateAuthentication, Policy.PreparedQuery.decide_of_gone _ _ checked]
  simp only [cancelled]

section Embedded

variable (validator : Validator) (context : Policy.Context) {validatedAt : Instant}
  (judgedAt : Instant) {token : String} {claims : Claims}

theorem authenticateAt_of_gone
    (accepted : validator.validate (Int64.ofInt validatedAt.seconds) token = .ok claims)
    (gone : context.before ≠ .live) :
    (AccessControl.mk validator .embedded).authenticateAt context validatedAt judgedAt token =
      .error .cancelled :=
  authenticateAt_eq_cancelled ⟨validator, .embedded⟩ judgedAt accepted gone

/-- A token with known members only is decided by the conditions of the policy, for a caller that
waits for the decision. -/
theorem authenticateAt_of_onlyKnownMembers
    (accepted : validator.validate (Int64.ofInt validatedAt.seconds) token = .ok claims)
    (only : Credential.OnlyKnownMembers token) :
    (context.Live →
      Policy.Embedded.Accepts validator.keys context.wallSeconds judgedAt token claims →
      (AccessControl.mk validator .embedded).authenticateAt context validatedAt judgedAt token =
        .ok claims) ∧
    (context.Live →
      ¬ Policy.Embedded.Accepts validator.keys context.wallSeconds judgedAt token claims →
      (AccessControl.mk validator .embedded).authenticateAt context validatedAt judgedAt token =
        .error .denied) ∧
    (¬ context.Live →
      (AccessControl.mk validator .embedded).authenticateAt context validatedAt judgedAt token =
        .error .cancelled) := by
  obtain ⟨kid, pair, asked, found, judged⟩ :=
    authenticateAt_of_validate ⟨validator, .embedded⟩ context judgedAt accepted
  have loaded : validator.keys.get? kid = some pair := found
  rw [judged, Policy.Engine.evaluateAuthentication_embedded,
    Policy.Embedded.tokenCheck_of_validate accepted only,
    Policy.Embedded.accepts_iff asked loaded, ← List.contains_iff_mem]
  refine ⟨?_, ?_, ?_⟩
  · rintro ⟨before, after⟩ ⟨trusted, checked⟩
    rw [before, after, trusted, checked]
    rfl
  · rintro ⟨before, after⟩ refused
    have denied : ((Policy.Embedded.verdict pair token claims.issuer judgedAt).isSome &&
        Policy.Embedded.trustedIssuers.contains claims.issuer) = false := by
      rw [Bool.and_eq_false_imp]
      intro checked
      rw [← Bool.not_eq_true]
      exact fun trusted => refused ⟨trusted, checked⟩
    rw [before, after]
    simp only [Policy.Standing.check, denied]
  · intro gone
    by_cases before : context.before = .live
    · have began : context.before.check = .ok () :=
        (Policy.Standing.check_eq_ok_iff _).mpr before
      have after : context.after ≠ .live := fun live => gone ⟨before, live⟩
      obtain ⟨error, checked, cancelled⟩ := AccessError.ofPolicy_of_check after
      simp only [began, checked, cancelled]
    · obtain ⟨error, checked, cancelled⟩ := AccessError.ofPolicy_of_check before
      simp only [checked, cancelled]

end Embedded

/-- Both layers gate: a token is accepted only if it validates and the embedded policy accepts
it too, and each way to fail has its own error. -/
theorem authenticateAt_layered (validator : Validator) (context : Policy.Context)
    (validatedAt judgedAt : Instant) (token : String) :
    let validated := validator.validate (Int64.ofInt validatedAt.seconds) token
    let result :=
      (AccessControl.mk validator .embedded).authenticateAt context validatedAt judgedAt token
    let accepts := Policy.Embedded.Accepts validator.keys context.wallSeconds judgedAt token
    (∀ error, validated = .error error → result = .error (.unauthenticated error)) ∧
    (∀ claims, validated = .ok claims → context.before ≠ .live → result = .error .cancelled) ∧
    (∀ claims, result = .ok claims → validated = .ok claims ∧ accepts claims ∧ context.Live) ∧
    (∀ claims, validated = .ok claims → Credential.OnlyKnownMembers token →
      (context.Live → accepts claims → result = .ok claims) ∧
      (context.Live → ¬ accepts claims → result = .error .denied) ∧
      (¬ context.Live → result = .error .cancelled)) ∧
    (∀ claims, validated = .ok claims →
      (∃ kid pair, Credential.kid token = .ok kid ∧ validator.keys.get? kid = some pair) ∧
      ∀ error, result ≠ .error (.unauthenticated error)) := by
  intro validated result accepts
  refine ⟨?rejected, ?gone, ?accepted, ?decided, ?asked⟩
  case rejected =>
    intro error refused
    have refusal : validator.validate (Int64.ofInt validatedAt.seconds) token = .error error :=
      refused
    simp only [result, authenticateAt, refusal]
  case gone =>
    intro claims accepted
    exact authenticateAt_of_gone validator context judgedAt accepted
  case accepted =>
    intro claims decision
    obtain ⟨accepted, kid, pair, asked, found, judged⟩ :=
      (authenticateAt_eq_ok_iff _ _ _ _ _ _).mp decision
    obtain ⟨live, passes, trusted⟩ :=
      (Policy.Engine.evaluateAuthentication_eq_true_iff _ _ _ _ _).mp judged
    obtain ⟨parts, checked⟩ := Policy.Embedded.accepted_of_tokenCheck passes
    exact ⟨accepted, ⟨trusted, kid, pair, parts, asked, found, checked⟩, live⟩
  case decided =>
    intro claims accepted only
    exact authenticateAt_of_onlyKnownMembers validator context judgedAt accepted only
  case asked =>
    intro claims accepted
    refine ⟨Validator.key_of_validate accepted, ?_⟩
    intro error unauthenticated
    obtain ⟨_, pair, _, _, judged⟩ :=
      authenticateAt_of_validate ⟨validator, .embedded⟩ context judgedAt accepted
    have same := judged.symm.trans unauthenticated
    split at same
    · rename_i cause _
      cases cause <;> cases same
    · cases same
    · cases same

/-- A token that validates is not decided for a caller that has given up, and one that does not
validate is rejected for any caller. For a caller that waits, the policy denies it while it is early,
and both layers accept it once it is not. -/
theorem authenticateAt_layered_example :
    ∃ token,
      (AccessControl.mk ⟨exampleStore, 60, none⟩ .embedded).authenticateAt
          ⟨.cancelled, .expired, 90⟩ (.ofSeconds 90) (.ofSeconds 91) token = .error .cancelled ∧
      (AccessControl.mk ⟨exampleStore, 0, none⟩ .embedded).authenticateAt
          ⟨.cancelled, .expired, 90⟩ (.ofSeconds 90) (.ofSeconds 91) token =
        .error (.unauthenticated .notLive) ∧
      (AccessControl.mk ⟨exampleStore, 60, none⟩ .embedded).authenticateAt
          ⟨.live, .live, 90⟩ (.ofSeconds 90) (.ofSeconds 91) token = .error .denied ∧
      (AccessControl.mk ⟨exampleStore, 60, none⟩ .embedded).authenticateAt
          ⟨.live, .live, 100⟩ (.ofSeconds 100) (.ofSeconds 101) token = .ok exampleClaims := by
  obtain ⟨token, issued⟩ := issueClaims_example
  obtain ⟨pair, found, asked, vouched, only⟩ := Credential.vouched_of_issueClaims issued
  have validated : ∀ leeway now, (Validator.mk exampleStore leeway none).validate now token =
      if exampleClaims.isLiveAt now leeway = false then .error .notLive else .ok exampleClaims := by
    intro leeway now
    rw [vouched.validate_eq]
    simp
  have early : Int64.ofInt (Instant.ofSeconds 90).seconds = 90 := by decide
  have inTime : Int64.ofInt (Instant.ofSeconds 100).seconds = 100 := by decide
  have tolerated : (Validator.mk exampleStore 60 none).validate
      (Int64.ofInt (Instant.ofSeconds 90).seconds) token = .ok exampleClaims := by
    rw [early, validated, if_neg (by decide)]
  have valid : (Validator.mk exampleStore 60 none).validate
      (Int64.ofInt (Instant.ofSeconds 100).seconds) token = .ok exampleClaims := by
    rw [inTime, validated, if_neg (by decide)]
  have accepts : ∀ (wallSeconds : Int) (now : Instant), Policy.Clear now 100 700 →
      (Policy.Embedded.Accepts exampleStore wallSeconds now token exampleClaims ↔
        100 ≤ now.seconds ∧ now.seconds ≤ 700) := by
    intro wallSeconds now clear
    rw [Policy.Embedded.accepts_iff asked found,
      Policy.Embedded.isSome_verdict_iff vouched only.onlyClaims,
      ← Policy.insideWindow_secondsAt clear]
    exact ⟨fun accepts => accepts.2.2, fun inside => ⟨by decide, rfl, inside⟩⟩
  refine ⟨token, ?cancelled, ?notLive, ?denied, ?accepted⟩
  case cancelled =>
    obtain ⟨_, gone, _⟩ := authenticateAt_layered ⟨exampleStore, 60, none⟩
      ⟨.cancelled, .expired, 90⟩ (.ofSeconds 90) (.ofSeconds 91) token
    exact gone exampleClaims tolerated (by decide)
  case notLive =>
    obtain ⟨rejected, _⟩ := authenticateAt_layered ⟨exampleStore, 0, none⟩
      ⟨.cancelled, .expired, 90⟩ (.ofSeconds 90) (.ofSeconds 91) token
    exact rejected .notLive (by rw [early, validated, if_pos (by decide)])
  case denied =>
    obtain ⟨_, _, _, decided, _⟩ := authenticateAt_layered ⟨exampleStore, 60, none⟩
      ⟨.live, .live, 90⟩ (.ofSeconds 90) (.ofSeconds 91) token
    refine (decided exampleClaims tolerated only).2.1 ⟨rfl, rfl⟩ ?_
    rw [accepts 90 _ (Policy.clear_of_whole (by decide) rfl _ _)]
    decide
  case accepted =>
    obtain ⟨_, _, _, decided, _⟩ := authenticateAt_layered ⟨exampleStore, 60, none⟩
      ⟨.live, .live, 100⟩ (.ofSeconds 100) (.ofSeconds 101) token
    refine (decided exampleClaims valid only).1 ⟨rfl, rfl⟩ ?_
    rw [accepts 100 _ (Policy.clear_of_whole (by decide) rfl _ _)]
    decide

end AccessControl

end Turnstile
