import Turnstile.Proofs.Access.Decisions
import Turnstile.Proofs.Policy.Window
set_option autoImplicit false

/-! Both layers judge one credential. What the token check gives out of a token that validates has
the claims that are handed to the caller, however the token is written. -/

namespace Turnstile

namespace Policy

/-- Whatever is asked of it, the token check gives out of a token that validates a header with the
one algorithm that is allowed and the key that the token asks for, and a payload that says the
claims of the validator. -/
theorem agree_of_decodeVerify {validator : Validator} {now : Int64} {wallSeconds : Int}
    {token : String} {claims : Claims} {constraints : Json} {header payload : List (String × Json)}
    (accepted : validator.validate now token = .ok claims)
    (checked : decodeVerify wallSeconds token constraints = .ok (some (header, payload))) :
    ∃ kid pair, Credential.kid token = .ok kid ∧ validator.keys.get? kid = some pair ∧
      Agree header payload kid claims := by
  obtain ⟨key, signed⟩ := signedParts?_of_decodeVerify checked
  exact agree_of_validate accepted signed

theorem agree_of_decodeVerify_example :
    ∃ token pair header payload,
      (Validator.mk exampleStore 0 none).validate 300 token = .ok exampleClaims ∧
      Credential.kid token = .ok "main" ∧ exampleStore.get? "main" = some pair ∧
      decodeVerify 0 token
          (Embedded.tokenConstraints pair.publicPem "service project" (.ofSeconds 300)) =
        .ok (some (header, payload)) ∧
      ∃ kid pair, Credential.kid token = .ok kid ∧ exampleStore.get? kid = some pair ∧
        Agree header payload kid exampleClaims := by
  obtain ⟨token, issued⟩ := issueClaims_example
  obtain ⟨pair, found, asked, vouched, only⟩ := Credential.vouched_of_issueClaims issued
  have accepted : (Validator.mk exampleStore 0 none).validate 300 token = .ok exampleClaims := by
    rw [vouched.validate_eq]
    decide
  have clear : Clear (.ofSeconds 300) exampleClaims.notBefore.toInt exampleClaims.expires.toInt :=
    clear_of_whole (by decide) rfl _ _
  obtain ⟨⟨header, payload⟩, checked⟩ :=
    (Embedded.decodeVerify_eq_some_iff vouched only.onlyClaims 0 "service project"
        (.ofSeconds 300)).mpr
      ⟨by decide, (insideWindow_secondsAt clear).mpr (by decide)⟩
  exact ⟨token, pair, header, payload, accepted, asked, found, checked,
    agree_of_decodeVerify accepted checked⟩

end Policy

/-- The policy has judged the credential whose claims are handed to the caller. -/
theorem AccessControl.agree_of_authenticateAt {validator : Validator} {context : Policy.Context}
    {validatedAt judgedAt : Instant} {token : String} {claims : Claims}
    (accepted : (AccessControl.mk validator .embedded).authenticateAt context validatedAt judgedAt
      token = .ok claims) :
    ∃ kid pair header payload, Credential.kid token = .ok kid ∧
      validator.keys.get? kid = some pair ∧
      Policy.decodeVerify context.wallSeconds token
          (Policy.Embedded.tokenConstraints pair.publicPem claims.issuer judgedAt) =
        .ok (some (header, payload)) ∧
      Policy.Agree header payload kid claims := by
  obtain ⟨validated, kid, pair, asked, found, judged⟩ :=
    (authenticateAt_eq_ok_iff _ _ _ _ _ _).mp accepted
  obtain ⟨_, passes, _⟩ := (Policy.Engine.evaluateAuthentication_eq_true_iff _ _ _ _ _).mp judged
  obtain ⟨⟨header, payload⟩, checked⟩ := Policy.Embedded.accepted_of_tokenCheck passes
  obtain ⟨key, signed⟩ := Policy.signedParts?_of_decodeVerify checked
  obtain ⟨sameKid, _, sameAsked, _, agree⟩ := Policy.agree_of_validate validated signed
  rw [asked] at sameAsked
  cases sameAsked
  exact ⟨kid, pair, header, payload, asked, found, checked, agree⟩

end Turnstile
