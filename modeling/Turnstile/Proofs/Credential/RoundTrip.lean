import Turnstile.Credential.Issue
import Turnstile.Proofs.Jws.Token
import Turnstile.Proofs.Rsa.Signature
set_option autoImplicit false

/-! Issued credentials are valid. Whatever the claims and the identifier of the key, a credential
that is issued is read back as exactly these claims, and only the time and the audience can speak
against it. -/

namespace Turnstile

/-! ### Signed tokens -/

namespace KeyPair

/-- The token of some claims before it is signed. -/
def unsigned (pair : KeyPair) (claims : Claims) : Jws.Compact where
  header := Base64.encodeUrl (Utf8.encodeChars (Jws.Header.render Credential.algorithm pair.kid))
  payload := Base64.encodeUrl (Utf8.encodeChars claims.toJson.render)
  signature := []

private theorem signed_of_signClaims {pair : KeyPair} {claims : Claims} {token : String}
    (signed : pair.signClaims claims = .ok token) :
    ∃ signature,
      Rsa.verifies pair.publicKey .sha256 (pair.unsigned claims).signedOctets signature = true ∧
      token = { pair.unsigned claims with signature := Base64.encodeUrl signature }.render := by
  unfold signClaims at signed
  simp only at signed
  cases made : Rsa.sign pair.key .sha256 (pair.unsigned claims).signedOctets with
  | error fault =>
      rw [unsigned] at made
      rw [made] at signed
      cases signed
  | ok signature =>
      refine ⟨signature, Rsa.verifies_of_sign pair.checked made, ?_⟩
      rw [unsigned] at made
      rw [made] at signed
      exact (Except.ok.inj signed).symm

end KeyPair

section Signed

variable {pair : KeyPair} {claims : Claims} {signature : Bytes}

private def signedCompact (pair : KeyPair) (claims : Claims) (signature : Bytes) : Jws.Compact :=
  { pair.unsigned claims with signature := Base64.encodeUrl signature }

private theorem headerOctets?_signed : (signedCompact pair claims signature).headerOctets? =
    some (Utf8.encodeChars (Jws.Header.render Credential.algorithm pair.kid)) :=
  Base64.decodeUrl?_encodeUrl _

private theorem payloadOctets?_signed : (signedCompact pair claims signature).payloadOctets? =
    some (Utf8.encodeChars claims.toJson.render) :=
  Base64.decodeUrl?_encodeUrl _

private theorem signatureOctets?_signed :
    (signedCompact pair claims signature).signatureOctets? = some signature :=
  Base64.decodeUrl?_encodeUrl _

private theorem ofText?_signed : Jws.Compact.ofText?
    (signedCompact pair claims signature).render = some (signedCompact pair claims signature) :=
  Jws.Compact.ofText?_render (Base64.dot_not_mem_encodeUrl _) (Base64.dot_not_mem_encodeUrl _)
    (Base64.dot_not_mem_encodeUrl _)

private theorem parse_signed (filled : signature ≠ []) :
    Credential.parse (signedCompact pair claims signature).render =
      .ok (signedCompact pair claims signature, ⟨Credential.algorithm.name, pair.kid⟩) := by
  have header : (signedCompact pair claims signature).header ≠ [] :=
    Base64.encodeUrl_ne_nil (Jws.Header.render_ne_nil _ _)
  have payload : (signedCompact pair claims signature).payload ≠ [] := by
    apply Base64.encodeUrl_ne_nil
    intro empty
    obtain ⟨tree, read, _⟩ := Claims.parse?_render claims
    rw [empty] at read
    cases read
  have signed : (signedCompact pair claims signature).signature ≠ [] :=
    Base64.encodeUrl_ne_nil filled
  have complete : (signedCompact pair claims signature).isComplete = true := by
    simp only [Jws.Compact.isComplete, List.isEmpty_eq_false_iff.mpr header,
      List.isEmpty_eq_false_iff.mpr payload, List.isEmpty_eq_false_iff.mpr signed, Bool.not_false,
      Bool.and_self]
  rw [Credential.parse, ofText?_signed]
  simp only [complete, Bool.not_true, Bool.false_eq_true, if_false, headerOctets?_signed,
    Option.bind_some, Jws.Header.hint_render]

private theorem openClaims_signed
    (verified : Rsa.verifies pair.publicKey .sha256
      (signedCompact pair claims signature).signedOctets signature = true) :
    Validator.openClaims pair.publicKey (signedCompact pair claims signature) = .ok claims := by
  obtain ⟨tree, parsed, read, readable⟩ := Claims.parse?_render claims
  have payload : Jws.verifiedPayload Credential.algorithm (some pair.publicKey)
      (signedCompact pair claims signature) = .ok (Utf8.encodeChars claims.toJson.render) := by
    simp only [Jws.verifiedPayload, headerOctets?_signed, Jws.Header.algorithm?_render, ne_eq,
      not_true_eq_false, if_false, signatureOctets?_signed, payloadOctets?_signed,
      Credential.algorithm, Jws.Algorithm.hash?, verified, if_true]
  simp only [Validator.openClaims, Jws.openWith, payload, parsed, read, readable, if_true]

end Signed

/-! ### Vouched credentials -/

/-- A token that a loaded key vouches for, with claims: the token asks for this key, and under the
key it says these claims. Nothing is asked of the time and the audience. -/
def Credential.Vouched (keys : KeyStore) (pair : KeyPair) (token : String) (claims : Claims) :
    Prop :=
  ∃ compact hint, Credential.parse token = .ok (compact, hint) ∧
    hint.algorithm = Credential.algorithm.name ∧ keys.get? hint.kid = some pair ∧
    Validator.openClaims pair.publicKey compact = .ok claims

private theorem acceptsAudience_eq (keys : KeyStore) (leeway : Int64) (audience : Option String)
    (claims : Claims) :
    (Validator.mk keys leeway audience).acceptsAudience claims =
      !decide (audience ≠ none ∧ claims.audience ≠ audience) := by
  cases audience with
  | none => simp [Validator.acceptsAudience]
  | some required =>
      simp only [Validator.acceptsAudience, ne_eq, reduceCtorEq, not_false_eq_true, true_and,
        decide_not, Bool.not_not]
      exact Bool.eq_iff_iff.mpr (by simp)

/-- Nothing but the time and the audience speaks against a vouched token, in this order. -/
theorem Credential.Vouched.validate_eq {keys : KeyStore} {pair : KeyPair} {token : String}
    {claims : Claims} (vouched : Vouched keys pair token claims) (leeway : Int64)
    (audience : Option String) (now : Int64) :
    (Validator.mk keys leeway audience).validate now token =
      if claims.isLiveAt now leeway = false then .error .notLive
      else if audience ≠ none ∧ claims.audience ≠ audience then .error .audience
      else .ok claims := by
  obtain ⟨compact, hint, parsed, named, found, opened⟩ := vouched
  simp only [Validator.validate, parsed, named, ne_eq, not_true_eq_false, if_false, found, opened,
    acceptsAudience_eq, Bool.not_eq_true', Bool.not_not, decide_eq_true_eq]

theorem Credential.Vouched.validate_ne_notLive_iff {keys : KeyStore} {pair : KeyPair}
    {token : String} {claims : Claims} (vouched : Vouched keys pair token claims) (leeway : Int64)
    (audience : Option String) (now : Int64) :
    (Validator.mk keys leeway audience).validate now token ≠ .error .notLive ↔
      claims.isLiveAt now leeway = true := by
  rw [vouched.validate_eq]
  cases claims.isLiveAt now leeway with
  | false => simp
  | true =>
      simp only [Bool.true_eq_false, if_false, iff_true]
      split <;> simp

theorem Credential.Vouched.of_validate {keys : KeyStore} {pair : KeyPair} {token : String}
    {claims found : Claims} (vouched : Vouched keys pair token claims) {leeway : Int64}
    {audience : Option String} {now : Int64}
    (accepted : (Validator.mk keys leeway audience).validate now token = .ok found) :
    claims.isLiveAt now leeway = true ∧ found = claims := by
  rw [vouched.validate_eq] at accepted
  split at accepted
  · cases accepted
  · rename_i live
    split at accepted
    · cases accepted
    · cases accepted
      exact ⟨(Bool.not_eq_false _).mp live, rfl⟩

/-! ### Issued credentials -/

/-- A credential that is signed with a key of the store is vouched for by this key. -/
theorem vouched_of_signClaims {keys : KeyStore} {kid token : String} {pair : KeyPair}
    {claims : Claims} (found : keys.get? kid = some pair)
    (made : pair.signClaims claims = .ok token) :
    Credential.Vouched keys pair token claims ∧ Credential.kid token = .ok kid := by
  obtain ⟨signature, verified, written⟩ := KeyPair.signed_of_signClaims made
  have checked := Rsa.PrivateKey.toPublic_checked pair.checked
  have filled := Rsa.ne_nil_of_verifies checked verified
  have kidOfPair : pair.kid = kid := (KeyStore.mem_of_get? found).2
  have parsed : Credential.parse (signedCompact pair claims signature).render =
      .ok (signedCompact pair claims signature, ⟨Credential.algorithm.name, pair.kid⟩) :=
    parse_signed filled
  have opened : Validator.openClaims pair.publicKey (signedCompact pair claims signature) =
      .ok claims := openClaims_signed verified
  rw [← signedCompact] at written
  rw [written]
  constructor
  · exact ⟨_, _, parsed, rfl, kidOfPair ▸ found, opened⟩
  · rw [Credential.kid, parsed, ← kidOfPair]
    rfl

theorem octets_of_signClaims {pair : KeyPair} {claims : Claims} {token : String}
    (made : pair.signClaims claims = .ok token) :
    ∃ compact, Jws.Compact.ofText? token = some compact ∧
      compact.headerOctets? =
        some (Utf8.encodeChars (Jws.Header.render Credential.algorithm pair.kid)) ∧
      compact.payloadOctets? = some (Utf8.encodeChars claims.toJson.render) := by
  obtain ⟨signature, _, written⟩ := KeyPair.signed_of_signClaims made
  rw [← signedCompact] at written
  rw [written]
  exact ⟨_, ofText?_signed, headerOctets?_signed, payloadOctets?_signed⟩

/-- A credential that is signed with a key of the store is valid, with the claims that were
signed. Nothing but the time and the audience speaks against it, in this order. -/
theorem validate_of_signClaims {keys : KeyStore} {kid token : String} {pair : KeyPair}
    {claims : Claims} (found : keys.get? kid = some pair)
    (made : pair.signClaims claims = .ok token) (leeway : Int64) (audience : Option String)
    (now : Int64) :
    (Validator.mk keys leeway audience).validate now token =
        (if claims.isLiveAt now leeway = false then .error .notLive
        else if audience ≠ none ∧ claims.audience ≠ audience then .error .audience
        else .ok claims) ∧
      Credential.kid token = .ok kid := by
  obtain ⟨vouched, asked⟩ := vouched_of_signClaims found made
  exact ⟨vouched.validate_eq leeway audience now, asked⟩

theorem KeyStore.signed_of_issueClaims {keys : KeyStore} {kid token : String} {claims : Claims}
    (issued : keys.issueClaims kid claims = .ok token) :
    ∃ pair, keys.get? kid = some pair ∧ pair.signClaims claims = .ok token := by
  unfold issueClaims at issued
  split at issued
  · cases issued
  · unfold get at issued
    cases found : keys.get? kid with
    | none =>
        rw [found] at issued
        cases issued
    | some pair =>
        simp only [found] at issued
        cases made : pair.signClaims claims with
        | error fault =>
            rw [made] at issued
            cases issued
        | ok signed =>
            rw [made] at issued
            cases issued
            exact ⟨pair, rfl, made⟩

/-- A credential that is issued is valid, with the claims that were signed, wherever the same
keys are loaded. -/
theorem validate_of_issueClaims {keys : KeyStore} {kid token : String} {claims : Claims}
    (issued : keys.issueClaims kid claims = .ok token) (leeway : Int64)
    (audience : Option String) (now : Int64) :
    (Validator.mk keys leeway audience).validate now token =
        (if claims.isLiveAt now leeway = false then .error .notLive
        else if audience ≠ none ∧ claims.audience ≠ audience then .error .audience
        else .ok claims) ∧
      Credential.kid token = .ok kid := by
  obtain ⟨pair, found, made⟩ := KeyStore.signed_of_issueClaims issued
  exact validate_of_signClaims found made leeway audience now

/-- A key that is good for examples alone: its primes are close together. -/
def exampleKey : Rsa.PrivateKey :=
  let p := 3 * 2 ^ 1022 + 1037
  let q := 3 * 2 ^ 1022 + 1697
  let exponent := (16421 * ((p - 1) * (q - 1)) + 1) / 65537
  { modulus := p * q
    publicExponent := 65537
    privateExponent := exponent
    primeP := p
    primeQ := q
    exponentP := exponent % (p - 1)
    exponentQ := exponent % (q - 1)
    coefficient := Rsa.power p q (p - 2) }

theorem exampleKey_check : exampleKey.check = .ok () := by
  decide +kernel

def exampleStore : KeyStore where
  pairs := [⟨"main", exampleKey, exampleKey_check⟩]
  sorted := List.pairwise_singleton _ _
  nonempty := List.cons_ne_nil _ _

/-- Claims with characters that are written with escapes. -/
def exampleClaims : Claims :=
  ⟨"Zoë \"z\"\n", "service project", none, 100, 100, 700, some "1", [.admin]⟩

theorem KeyStore.exists_token {keys : KeyStore} {kid : String} {claims : Claims}
    (made : (keys.issueClaims kid claims).isOk = true) :
    ∃ token, keys.issueClaims kid claims = .ok token := by
  cases issued : keys.issueClaims kid claims with
  | ok token => exact ⟨token, rfl⟩
  | error error =>
      rw [issued] at made
      cases made

theorem issueClaims_example :
    ∃ token, exampleStore.issueClaims "main" exampleClaims = .ok token :=
  KeyStore.exists_token (by decide +kernel)

theorem validate_exampleToken :
    ∃ token, ∀ leeway now, (Validator.mk exampleStore leeway none).validate now token =
      if exampleClaims.isLiveAt now leeway = false then .error .notLive else .ok exampleClaims := by
  obtain ⟨token, issued⟩ := issueClaims_example
  obtain ⟨pair, found, made⟩ := KeyStore.signed_of_issueClaims issued
  refine ⟨token, fun leeway now => ?_⟩
  rw [(validate_of_signClaims found made leeway none now).1]
  simp

theorem validate_of_issueClaims_example :
    ∃ token, exampleStore.issueClaims "main" exampleClaims = .ok token ∧
      (Validator.mk exampleStore 60 (some "api")).validate 90 token = .error .audience ∧
      (Validator.mk exampleStore 60 none).validate 90 token = .ok exampleClaims ∧
      (Validator.mk exampleStore 0 none).validate 90 token = .error .notLive ∧
      Credential.kid token = .ok "main" := by
  obtain ⟨token, issued⟩ := issueClaims_example
  have audience := (validate_of_issueClaims issued 60 (some "api") 90).1
  have accepted := validate_of_issueClaims issued 60 none 90
  have early := (validate_of_issueClaims issued 0 none 90).1
  have live : exampleClaims.isLiveAt 90 60 = true := by decide
  have notLive : exampleClaims.isLiveAt 90 0 = false := by decide
  refine ⟨token, issued, ?_, ?_, ?_, accepted.2⟩
  · rw [audience, live]
    decide
  · rw [accepted.1, live]
    decide
  · rw [early, notLive]
    decide

end Turnstile
