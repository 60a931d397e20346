import Turnstile.Access
import Turnstile.Proofs.Policy.Engine
set_option autoImplicit false

/-! When access control gives access, and when its embedded policies do. -/

namespace Turnstile.AccessControl

/-- A credential is accepted exactly if it validates and the authentication policy accepts it
under the key that its header asks for. -/
theorem authenticateAt_eq_ok_iff (access : AccessControl) (context : Policy.Context)
    (validatedAt judgedAt : Instant) (token : String) (claims : Claims) :
    access.authenticateAt context validatedAt judgedAt token = .ok claims ↔
      access.validator.validate (Int64.ofInt validatedAt.seconds) token = .ok claims ∧
        ∃ kid pair, Credential.kid token = .ok kid ∧ access.keys.get? kid = some pair ∧
          access.engine.evaluateAuthentication context judgedAt pair.publicPem token
            claims.issuer = .ok true := by
  unfold authenticateAt
  cases access.validator.validate (Int64.ofInt validatedAt.seconds) token with
  | error error => simp
  | ok validated =>
      simp only [judge, Except.ok.injEq]
      cases Credential.kid token with
      | error error => simp
      | ok kid =>
          simp only [Except.ok.injEq]
          cases found : access.keys.get? kid with
          | none => simp [found]
          | some pair =>
              have unique : ∀ claims : Claims, (∃ other otherPair, kid = other ∧
                  access.keys.get? other = some otherPair ∧
                  access.engine.evaluateAuthentication context judgedAt otherPair.publicPem token
                    claims.issuer = .ok true) ↔
                  access.engine.evaluateAuthentication context judgedAt pair.publicPem token
                    claims.issuer = .ok true := by
                intro claims
                constructor
                · rintro ⟨other, otherPair, rfl, same, accepted⟩
                  rw [found] at same
                  cases same
                  exact accepted
                · intro accepted
                  exact ⟨kid, pair, rfl, found, accepted⟩
              rw [unique]
              simp only
              constructor
              · intro accepted
                split at accepted
                · cases accepted
                · cases accepted
                · cases accepted
                  exact ⟨rfl, by assumption⟩
              · rintro ⟨rfl, accepted⟩
                rw [accepted]

theorem authorize_eq_ok_iff (access : AccessControl) (context : Policy.Context) (claims : Claims)
    (rule : AccessRule) :
    access.authorize context claims rule = .ok () ↔
      access.engine.evaluateAuthorization context rule claims.roles claims.subject = .ok true := by
  unfold authorize
  cases access.engine.evaluateAuthorization context rule claims.roles claims.subject with
  | error error => simp
  | ok allowed => cases allowed <;> simp

theorem live_of_authenticate {validator : Validator} {context : Policy.Context} {now : Instant}
    {token : String} {claims : Claims}
    (accepted : (AccessControl.mk validator .embedded).authenticate context now token =
      .ok claims) : context.Live := by
  obtain ⟨_, kid, pair, _, _, judged⟩ := (authenticateAt_eq_ok_iff _ _ _ _ _ _).mp accepted
  exact ((Policy.Engine.evaluateAuthentication_eq_true_iff _ _ _ _ _).mp judged).1

end Turnstile.AccessControl
