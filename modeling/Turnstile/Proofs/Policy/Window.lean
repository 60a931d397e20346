import Turnstile.Proofs.Policy.Agreement
import Turnstile.Proofs.Policy.Clock
set_option autoImplicit false

/-! What the token check finds of tokens with no members but claims in their payload. Under the key
that vouches for such a token only the issuer and the time matter, and at clear instants the time is
judged as whole seconds. -/

namespace Turnstile.Policy.Embedded

private theorem respects_int (bound : Int) (holds : Binary64 → Bool) :
    respects (some (.number (.int bound))) holds = holds (.ofInt bound) := rfl

/-- The constraints of the embedded policy are met by a payload that says claims of the issuer, at a
time inside their window. -/
theorem satisfies_constraints_iff {payload : List (String × Json)} {claims : Claims}
    (said : Claims.SaidIn payload claims) (publicPem issuer : String) (now : Instant)
    (seconds : Binary64) :
    satisfies (constraints publicPem issuer now) seconds payload = true ↔
      claims.issuer = issuer ∧
        insideWindow claims.notBefore.toInt claims.expires.toInt seconds = true := by
  have wanted : (constraints publicPem issuer now).issuer = some issuer := rfl
  have anyAudience : (constraints publicPem issuer now).audience = none := rfl
  have named : issuerMatches (some issuer) payload = true ↔ claims.issuer = issuer := by
    rw [issuerMatches, said.issuer, Option.bind_some, Json.string?, beq_iff_eq, Option.some.injEq]
  have any : audienceMatches none payload = true := rfl
  rw [satisfies, said.expires, said.notBefore, respects_int, respects_int, ← insideWindow, wanted,
    anyAudience, any, Bool.and_true, Bool.and_eq_true, named, and_comm]

section Vouched

variable {keys : KeyStore} {pair : KeyPair} {token : String} {claims : Claims}

theorem verdict_of_signedParts? (vouched : Credential.Vouched keys pair token claims)
    {parts : List (String × Json) × List (String × Json)}
    (signed : signedParts? (some pair.publicKey) token = some parts) (issuer : String)
    (now : Instant) :
    verdict pair token issuer now =
      if claims.issuer = issuer ∧
          insideWindow claims.notBefore.toInt claims.expires.toInt (secondsAt now) = true then
        some parts
      else none := by
  have agree := agree_of_signedParts? vouched signed
  have checked : pair.publicKey.Checked := Rsa.PrivateKey.toPublic_checked pair.checked
  rw [verdict, Rsa.PublicKey.decode?_encode_of_checked checked, signed, Option.filter_some]
  exact if_congr (satisfies_constraints_iff agree.claims pair.publicPem issuer now _) rfl rfl

theorem isSome_verdict_iff (vouched : Credential.Vouched keys pair token claims)
    (known : Credential.OnlyClaims token) (issuer : String) (now : Instant) :
    (verdict pair token issuer now).isSome = true ↔
      claims.issuer = issuer ∧
        insideWindow claims.notBefore.toInt claims.expires.toInt (secondsAt now) = true := by
  obtain ⟨header, payload, signed⟩ := exists_signedParts? vouched known
  rw [verdict_of_signedParts? vouched signed, Option.isSome_ite]

variable (vouched : Credential.Vouched keys pair token claims)
  (known : Credential.OnlyClaims token) (wallSeconds : Int) (issuer : String) (now : Instant)

include vouched known

/-- The token check gives out the parts of a vouched token for its issuer and inside its window. -/
theorem decodeVerify_eq_some_iff :
    (∃ parts, decodeVerify wallSeconds token (tokenConstraints pair.publicPem issuer now) =
        .ok (some parts)) ↔
      claims.issuer = issuer ∧
        insideWindow claims.notBefore.toInt claims.expires.toInt (secondsAt now) = true := by
  rw [← isSome_verdict_iff vouched known, Option.isSome_iff_exists, decodeVerify_publicPem]
  simp only [Except.ok.injEq]

end Vouched

end Turnstile.Policy.Embedded
