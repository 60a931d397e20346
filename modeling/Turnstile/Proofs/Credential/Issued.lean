import Turnstile.Credential.Issue
import Turnstile.Proofs.Instant
import Turnstile.Proofs.Role
set_option autoImplicit false

/-! What a credential says that is issued on request: what was asked for, from the second of
issuing to the second in which the lifetime ends. -/

namespace Turnstile

/-- Claims are those that a request at an instant asks for. -/
structure CredentialRequest.Grants (request : CredentialRequest) (now : Instant) (claims : Claims) :
    Prop where
  subject : claims.subject = request.subject
  issuer : claims.issuer = request.issuer
  audience : claims.audience = request.audience
  issuedAt : claims.issuedAt.toInt = now.seconds
  notBefore : claims.notBefore.toInt = now.seconds
  expires : claims.expires.toInt = (now.sinceEpoch + request.lifetime) / billion
  roles : claims.roles = request.roles.eraseDups

/-- Outside leap seconds, a request makes the claims that it asks for. -/
theorem CredentialRequest.grants_of_claims? {request : CredentialRequest} {now : Instant}
    {tokenId : String} {claims : Claims} (noLeap : now.nanos < billion)
    (made : request.claims? now tokenId = some claims) : request.Grants now claims := by
  unfold claims? at made
  split at made
  · cases made
  · obtain ⟨lifetime, bounded, made⟩ := Option.bind_eq_some_iff.mp made
    obtain ⟨bare, issued, made⟩ := Option.bind_eq_some_iff.mp made
    cases made
    obtain ⟨expires, added, rfl⟩ := Option.map_eq_some_iff.mp issued
    have span := Duration.nanoseconds_of_ofNanoseconds? bounded
    exact {
      subject := rfl
      issuer := rfl
      audience := rfl
      issuedAt := now.toInt_seconds
      notBefore := now.toInt_seconds
      expires := by
        rw [← span, ← Instant.seconds_of_add? noLeap (by omega) added]
        exact expires.toInt_seconds
      roles := Role.withoutRepeats_eq_eraseDups request.roles }

theorem KeyStore.issueClaims_of_issue {keys : KeyStore} {now : Instant} {tokenId token : String}
    {request : CredentialRequest} (noLeap : now.nanos < billion)
    (issued : keys.issue now tokenId request = .ok token) :
    ∃ claims, keys.issueClaims request.kid claims = .ok token ∧ request.Grants now claims := by
  unfold issue at issued
  split at issued
  · cases issued
  · rename_i claims made
    exact ⟨claims, issued, CredentialRequest.grants_of_claims? noLeap made⟩

end Turnstile
