import Turnstile.Proofs.Credential.Classification
set_option autoImplicit false

/-! Tokens that are not signed. What a validator says of such a token depends on its header and on
the loaded keys alone, so that nothing can be learned by changing what has not been signed. -/

namespace Turnstile

open Jws (Compact KeyHint)
open Jws.Header (InOrder)

namespace Credential

/-- Both segments of a token behind its header can be decoded, and its signature verifies under the
key that its header asks for. -/
def Signed (keys : KeyStore) (compact : Compact) : Prop :=
  ∃ header hint pair payload, compact.headerOctets? = some header ∧
    KeyHint.Written header hint ∧ keys.get? hint.kid = some pair ∧ SignedBy pair compact payload

/-- Some text without a dot, which can stand as a segment of a token. -/
structure Segment (text : List Char) : Prop where
  filled : text ≠ []
  dotless : '.' ∉ text

section Header

variable {keys : KeyStore} {header payload signature : List Char}

theorem segments_render (headerSegment : Segment header) (payloadSegment : Segment payload)
    (signatureSegment : Segment signature) :
    Segments (Compact.mk header payload signature).render ⟨header, payload, signature⟩ where
  written := rfl
  filled := ⟨headerSegment.filled, payloadSegment.filled, signatureSegment.filled⟩
  dotless := ⟨headerSegment.dotless, payloadSegment.dotless, signatureSegment.dotless⟩

theorem refuses_signature {octets : Bytes} {pair : KeyPair} (headerSegment : Segment header)
    (payloadSegment : Segment payload) (signatureSegment : Segment signature)
    (decoded : Base64.decodeUrl? header = some octets)
    (written : KeyHint.Written octets ⟨"RS256", pair.kid⟩)
    (found : keys.get? pair.kid = some pair) (inOrder : InOrder octets)
    (unsigned : ¬ Signed keys ⟨header, payload, signature⟩) (leeway : Nat)
    (audience : Option String) (now : Int64) :
    Validator.Refuses keys leeway audience now (Compact.mk header payload signature).render
      .signature := by
  have segments := segments_render headerSegment payloadSegment signatureSegment
  exact .signature ⟨⟨segments, decoded, written⟩, found⟩ inOrder fun payload signed =>
    unsigned ⟨octets, _, pair, payload, decoded, written, found, signed⟩

/-- One error for every unsigned token with a header, whatever stands behind the header and whatever
else the validator is set to. -/
theorem exists_refusal (keys : KeyStore) (headerDotless : '.' ∉ header) :
    ∃ error, ∀ payload signature, Segment payload → Segment signature →
      ¬ Signed keys ⟨header, payload, signature⟩ → ∀ leeway audience now,
        Validator.Refuses keys leeway audience now (Compact.mk header payload signature).render
          error := by
  by_cases asked : header ≠ [] ∧ ∃ octets hint, Base64.decodeUrl? header = some octets ∧
    KeyHint.Written octets hint
  case neg =>
    refine ⟨.malformed, fun payload signature payloadSegment signatureSegment _ _ _ _ => ?_⟩
    refine .form fun compact octets hint asks => asked ?_
    have form := (segments_iff _ _).mp asks.segments
    rw [Compact.ofText?_render headerDotless payloadSegment.dotless signatureSegment.dotless]
      at form
    cases form.1
    exact ⟨asks.segments.filled.1, octets, hint, asks.decoded, asks.written⟩
  obtain ⟨filled, octets, ⟨algorithm, kid⟩, decoded, written⟩ := asked
  have headerSegment : Segment header := ⟨filled, headerDotless⟩
  have asks : ∀ {payload signature}, Segment payload → Segment signature →
      Asks (Compact.mk header payload signature).render ⟨header, payload, signature⟩ octets
        ⟨algorithm, kid⟩ := fun payloadSegment signatureSegment =>
    ⟨segments_render headerSegment payloadSegment signatureSegment, decoded, written⟩
  by_cases named : algorithm = "RS256"
  case neg =>
    exact ⟨.signature, fun _ _ payloadSegment signatureSegment _ _ _ _ =>
      .algorithm (asks payloadSegment signatureSegment) named⟩
  subst named
  cases found : keys.get? kid with
  | none =>
      exact ⟨.unknownKey kid, fun _ _ payloadSegment signatureSegment _ _ _ _ =>
        .key (asks payloadSegment signatureSegment) found⟩
  | some pair =>
      obtain rfl : pair.kid = kid := (KeyStore.mem_of_get? found).2
      by_cases inOrder : InOrder octets
      case neg =>
        exact ⟨.malformed, fun _ _ payloadSegment signatureSegment _ _ _ _ =>
          .header ⟨asks payloadSegment signatureSegment, found⟩ inOrder⟩
      exact ⟨.signature, fun _ _ payloadSegment signatureSegment unsigned =>
        refuses_signature headerSegment payloadSegment signatureSegment decoded written found
          inOrder unsigned⟩

end Header

theorem header_of_issueClaims {keys : KeyStore} {kid token : String} {claims : Claims}
    {issued : Compact} (made : keys.issueClaims kid claims = .ok token)
    (form : Compact.ofText? token = some issued) :
    ∃ octets pair, Base64.decodeUrl? issued.header = some octets ∧
      KeyHint.Written octets ⟨"RS256", pair.kid⟩ ∧ keys.get? pair.kid = some pair ∧
      InOrder octets := by
  obtain ⟨pair, found, signed⟩ := KeyStore.signed_of_issueClaims made
  obtain ⟨compact, sameForm, decoded, _⟩ := octets_of_signClaims signed
  rw [form] at sameForm
  cases sameForm
  obtain ⟨written, inOrder⟩ := Jws.Header.written_render algorithm pair.kid
  exact ⟨_, pair, decoded, written, (KeyStore.mem_of_get? found).2 ▸ found, inOrder⟩

end Credential

open Credential (Segment Signed)

/-- Tokens with one header are refused alike as long as neither is signed under the key that the
header asks for, whatever their payloads and signatures are and whenever they are presented. If the
header is one of an issued credential, they are refused for their signature. -/
theorem unsigned_refused_alike {keys : KeyStore}
    {header payload signature otherPayload otherSignature : List Char}
    (headerDotless : '.' ∉ header) (payloadSegment : Segment payload)
    (signatureSegment : Segment signature) (otherPayloadSegment : Segment otherPayload)
    (otherSignatureSegment : Segment otherSignature)
    (unsigned : ¬ Signed keys ⟨header, payload, signature⟩)
    (otherUnsigned : ¬ Signed keys ⟨header, otherPayload, otherSignature⟩)
    (leeway otherLeeway : Nat) (audience otherAudience : Option String) (now otherNow : Int64) :
    ∃ error,
      (Validator.mk keys (Claims.leewayOf leeway) audience).validate now
          (Compact.mk header payload signature).render = .error error ∧
      (Validator.mk keys (Claims.leewayOf otherLeeway) otherAudience).validate otherNow
          (Compact.mk header otherPayload otherSignature).render = .error error ∧
      ∀ kid claims token issued, keys.issueClaims kid claims = .ok token →
        Compact.ofText? token = some issued → issued.header = header → error = .signature := by
  obtain ⟨error, refusal⟩ := Credential.exists_refusal keys headerDotless
  have refuses := refusal _ _ payloadSegment signatureSegment unsigned leeway audience now
  have refusesOther := refusal _ _ otherPayloadSegment otherSignatureSegment otherUnsigned
    otherLeeway otherAudience otherNow
  refine ⟨error, Validator.validate_of_refuses refuses,
    Validator.validate_of_refuses refusesOther, ?_⟩
  rintro kid claims token issued made form rfl
  obtain ⟨octets, pair, decoded, written, found, inOrder⟩ :=
    Credential.header_of_issueClaims made form
  have filled : issued.header ≠ [] := by
    intro empty
    rw [empty] at decoded
    cases decoded
    cases written with
    | object algorithm _ =>
        obtain ⟨_, _, parsed, _⟩ := algorithm
        cases parsed
    | array parsed _ _ => cases parsed
  have bySignature := Credential.refuses_signature ⟨filled, headerDotless⟩ payloadSegment
    signatureSegment decoded written found inOrder unsigned leeway audience now
  have refused := Validator.validate_of_refuses refuses
  rw [Validator.validate_of_refuses bySignature] at refused
  exact (Except.error.inj refused).symm

theorem Credential.not_signed_of_unfit {keys : KeyStore} {header payload signature : List Char}
    (unfit : ∀ pair ∈ keys.pairs, ∀ octets, Base64.decodeUrl? signature = some octets →
      octets.length ≠ Bytes.octetSize pair.publicKey.modulus) :
    ¬ Signed keys ⟨header, payload, signature⟩ := by
  rintro ⟨_, _, pair, _, _, _, found, ⟨octets, decoded, holds⟩, _⟩
  obtain ⟨loaded, _⟩ := KeyStore.mem_of_get? found
  exact unfit pair loaded octets decoded (Rsa.length_of_verifies holds)

/-- An issued credential with its payload and signature replaced is refused for its signature,
whether the replacements are segments that can be decoded or not. -/
theorem unsigned_refused_alike_example :
    ∃ token issued, exampleStore.issueClaims "main" exampleClaims = .ok token ∧
      Compact.ofText? token = some issued ∧
      ¬ Signed exampleStore ⟨issued.header, "e30".toList, "c2ln".toList⟩ ∧
      ¬ Signed exampleStore ⟨issued.header, "!".toList, "?".toList⟩ ∧
      (Validator.mk exampleStore (Claims.leewayOf 0) none).validate 300
        (Compact.mk issued.header "e30".toList "c2ln".toList).render = .error .signature ∧
      (Validator.mk exampleStore (Claims.leewayOf 60) (some "api")).validate 900
        (Compact.mk issued.header "!".toList "?".toList).render = .error .signature := by
  obtain ⟨token, made⟩ := issueClaims_example
  obtain ⟨pair, _, signed⟩ := KeyStore.signed_of_issueClaims made
  obtain ⟨issued, form, _⟩ := octets_of_signClaims signed
  have headerDotless := (Compact.eq_render_of_ofText? form).2.1
  have short : ¬ Signed exampleStore ⟨issued.header, "e30".toList, "c2ln".toList⟩ := by
    refine Credential.not_signed_of_unfit fun pair loaded octets decoded => ?_
    obtain rfl := List.mem_singleton.mp loaded
    have same : Base64.decodeUrl? "c2ln".toList = some [0x73, 0x69, 0x67] := by decide
    cases same.symm.trans decoded
    decide +kernel
  have undecodable : ¬ Signed exampleStore ⟨issued.header, "!".toList, "?".toList⟩ := by
    refine Credential.not_signed_of_unfit fun _ _ octets decoded => ?_
    have none : Base64.decodeUrl? "?".toList = none := by decide
    cases none.symm.trans decoded
  obtain ⟨error, refused, refusedOther, bySignature⟩ :=
    unsigned_refused_alike headerDotless ⟨by decide, by decide⟩ ⟨by decide, by decide⟩
      ⟨by decide, by decide⟩ ⟨by decide, by decide⟩ short undecodable 0 60 none (some "api")
      300 900
  obtain rfl := bySignature "main" exampleClaims token issued made form rfl
  exact ⟨token, issued, made, form, short, undecodable, refused, refusedOther⟩

end Turnstile
