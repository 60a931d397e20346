import Turnstile.Proofs.Credential.Signing
import Turnstile.Proofs.Rsa.Envelope
set_option autoImplicit false

/-! The keys that one file is read for. Loading, signing, validating credentials and checking tokens
each take the key out of octets on their own, and all of them take the same. Whether a key is kept
alone or in an envelope makes no difference to what it signs and verifies. -/

namespace Turnstile.KeyPair

/-- The keys of a pair that was loaded from a text: the one that the text is read for again to sign,
the one that credentials are validated with, and the one in the text for policies. Signatures are
judged alike under the last two. -/
structure OneKey (pair : KeyPair) (text : Bytes) : Prop where
  signing : ∃ octets, Rsa.trustedOctets text = .ok octets ∧ Rsa.ofNumbers octets = .ok pair.key
  validating : Rsa.PublicKey.decode? pair.publicKey.encode = some pair.key.toPublic
  trusted : ∃ octets, Rsa.trustedOctets (Utf8.encode pair.publicPem) = .ok octets ∧
    Rsa.PublicKey.decode? octets = some pair.key.toPublic ∧
    ∀ algorithm compact,
      Jws.verifiedPayload algorithm (Rsa.PublicKey.decode? octets) compact =
        Jws.verifiedPayload algorithm (some pair.publicKey) compact

/-- Whatever one pair signs is opened under the public key of another. -/
def OpenedBy (first second : KeyPair) : Prop :=
  ∀ claims token, first.signClaims claims = .ok token → ∃ compact hint,
    Credential.parse token = .ok (compact, hint) ∧
      Validator.openClaims second.publicKey compact = .ok claims

/-- Where the numbers of a key are kept: alone in a text, or in an envelope. -/
inductive Kept (text octets : Bytes) : Prop where
  | bare (block : Pem.parse text = .ok ⟨bareLabel, octets⟩)
  | enveloped {wrapped : Bytes} (block : Pem.parse text = .ok ⟨envelopeLabel, wrapped⟩)
      (opened : Rsa.openEnvelope wrapped = .ok octets)

/-- The pair that some numbers make, without what they are kept in. -/
def ofOctets (kid : String) (octets : Bytes) : Except KeyRejection KeyPair :=
  match read : Rsa.ofNumbers octets with
  | .ok key => .ok ⟨kid, key, Rsa.check_of_ofNumbers read⟩
  | .error fault => .error (.numbers fault)

section Loading

variable {kid : String} {text octets : Bytes} {pair : KeyPair}

theorem ofOctets_eq_ok_iff :
    ofOctets kid octets = .ok pair ↔ pair.kid = kid ∧ Rsa.ofNumbers octets = .ok pair.key := by
  unfold ofOctets
  split
  · rename_i key read
    constructor
    · intro same
      cases same
      exact ⟨rfl, read⟩
    · rintro ⟨named, found⟩
      obtain ⟨_, other, _⟩ := pair
      cases named
      cases read.symm.trans found
      rfl
  · rename_i fault refused
    exact iff_of_false (by simp) (by simp [refused])

theorem ofOctets_of_error {fault : Rsa.KeyFault} (refused : Rsa.ofNumbers octets = .error fault) :
    ofOctets kid octets = .error (.numbers fault) := by
  unfold ofOctets
  split
  · rename_i read
    cases refused.symm.trans read
  · rename_i found
    cases refused.symm.trans found
    rfl

/-- What is loaded depends on the numbers in a text, and not on what they are kept in. -/
theorem ofPem_of_kept (kept : Kept text octets) : ofPem kid text = ofOctets kid octets := by
  cases kept with
  | bare block =>
      simp only [ofPem, block, ofBlock]
      rw [if_pos trivial]
      rfl
  | @enveloped wrapped block opened =>
      have same : Rsa.ofEnvelope wrapped = Rsa.ofNumbers octets := by
        rw [Rsa.ofEnvelope, opened]
        rfl
      have notBare : envelopeLabel ≠ bareLabel := by decide
      simp only [ofPem, block, ofBlock]
      rw [if_neg notBare, if_pos trivial]
      split
      · rename_i read
        exact (ofOctets_eq_ok_iff.mpr ⟨rfl, same.symm.trans read⟩).symm
      · rename_i refused
        exact (ofOctets_of_error (same.symm.trans refused)).symm

theorem exists_kept_of_ofPem (accepted : ofPem kid text = .ok pair) :
    ∃ octets, Kept text octets ∧ Rsa.ofNumbers octets = .ok pair.key := by
  unfold ofPem at accepted
  split at accepted
  · rename_i block parsed
    obtain ⟨label, contents⟩ := block
    unfold ofBlock at accepted
    split at accepted
    · rename_i labelled
      cases labelled
      split at accepted
      · rename_i read
        cases accepted
        exact ⟨contents, .bare parsed, read⟩
      · cases accepted
    · split at accepted
      · rename_i labelled
        cases labelled
        split at accepted
        · rename_i read
          cases accepted
          obtain ⟨octets, opened, numbers⟩ := Rsa.bind_eq_ok read
          exact ⟨octets, .enveloped parsed opened, numbers⟩
        · cases accepted
      · cases accepted
  · cases accepted

theorem trustedOctets_of_kept {key : Rsa.PrivateKey} (kept : Kept text octets)
    (read : Rsa.ofNumbers octets = .ok key) : Rsa.trustedOctets text = .ok octets := by
  cases kept with
  | bare block => exact Rsa.trustedOctets_of_ofNumbers block read
  | enveloped block opened => exact Rsa.trustedOctets_of_openEnvelope block opened

theorem oneKey_of_ofPem (accepted : ofPem kid text = .ok pair) : pair.OneKey text := by
  obtain ⟨octets, kept, read⟩ := exists_kept_of_ofPem accepted
  have checked : pair.publicKey.Checked := Rsa.PrivateKey.toPublic_checked pair.checked
  have decoded : Rsa.PublicKey.decode? pair.publicKey.encode = some pair.key.toPublic :=
    Rsa.PublicKey.decode?_encode_of_checked checked
  refine ⟨⟨octets, trustedOctets_of_kept kept read, read⟩, decoded, ?_⟩
  refine ⟨pair.publicKey.encode, Rsa.trustedOctets_publicPem pair, decoded, ?_⟩
  intro algorithm compact
  rw [decoded]
  rfl

end Loading

/-- Pairs of the same numbers open what either of them signs, whatever they are called. -/
theorem openedBy_of_key_eq {first second : KeyPair} (same : first.key = second.key) :
    first.OpenedBy second := by
  intro claims token signed
  have found : (KeyStore.ofPair first).get? first.kid = some first := by
    simp [KeyStore.get?, KeyStore.ofPair]
  obtain ⟨⟨compact, hint, parsed, _, got, opened⟩, _⟩ := vouched_of_signClaims found signed
  have publicSame : first.publicKey = second.publicKey := congrArg Rsa.PrivateKey.toPublic same
  exact ⟨compact, hint, parsed, publicSame ▸ opened⟩

/-- All readings of a text that is loaded are of one key. Numbers in an envelope load as they do alone,
and for every key that passes its checks both kinds of files load, with the same public key, and open
what is signed with either. -/
theorem ofPem_one_key :
    (∀ kid text pair, ofPem kid text = .ok pair → pair.OneKey text) ∧
    (∀ bare enveloped octets wrapped, Pem.parse bare = .ok ⟨bareLabel, octets⟩ →
      Pem.parse enveloped = .ok ⟨envelopeLabel, wrapped⟩ → Rsa.openEnvelope wrapped = .ok octets →
      ∀ kid, ofPem kid enveloped = ofPem kid bare) ∧
    ∀ key : Rsa.PrivateKey, key.check = .ok () → ∀ bare enveloped,
      Pem.parse bare = .ok ⟨bareLabel, key.encode⟩ →
      Pem.parse enveloped = .ok ⟨envelopeLabel, key.envelope⟩ →
      ∀ kid other, ∃ first second, ofPem kid bare = .ok first ∧ ofPem other enveloped = .ok second ∧
        first.key = key ∧ second.key = key ∧ first.publicPem = second.publicPem ∧
        first.OpenedBy second ∧ second.OpenedBy first := by
  refine ⟨fun _ _ _ => oneKey_of_ofPem, ?envelope, ?files⟩
  case envelope =>
    intro bare enveloped octets wrapped bareBlock envelopedBlock opened kid
    rw [ofPem_of_kept (.bare bareBlock), ofPem_of_kept (.enveloped envelopedBlock opened)]
  case files =>
    intro key checked bare enveloped bareBlock envelopedBlock kid other
    have read := Rsa.PrivateKey.ofNumbers_encode checked
    have opened := Rsa.PrivateKey.openEnvelope_envelope checked
    refine ⟨⟨kid, key, checked⟩, ⟨other, key, checked⟩, ?_, ?_, rfl, rfl, rfl,
      openedBy_of_key_eq rfl, openedBy_of_key_eq rfl⟩
    · rw [ofPem_of_kept (.bare bareBlock)]
      exact ofOctets_eq_ok_iff.mpr ⟨rfl, read⟩
    · rw [ofPem_of_kept (.enveloped envelopedBlock opened)]
      exact ofOctets_eq_ok_iff.mpr ⟨rfl, read⟩

/-- The key of the sound pair, kept in an envelope. -/
def envelopedFile : Bytes := Utf8.encode (Pem.render ⟨envelopeLabel, soundPair.key.envelope⟩)

/-- One key in both kinds of files, and a token that is signed with one and opened with the other. -/
theorem ofPem_one_key_example : ∃ first second,
    ofPem "bare" soundPair.file = .ok first ∧ ofPem "enveloped" envelopedFile = .ok second ∧
      first.publicPem = second.publicPem ∧ first.OneKey soundPair.file ∧
      second.OneKey envelopedFile ∧ ∃ token compact hint,
        second.signClaims exampleClaims = .ok token ∧
        Credential.parse token = .ok (compact, hint) ∧
        Validator.openClaims first.publicKey compact = .ok exampleClaims := by
  obtain ⟨oneKey, _, files⟩ := ofPem_one_key
  have bareBlock : Pem.parse soundPair.file = .ok ⟨bareLabel, soundPair.key.encode⟩ :=
    Pem.parse_render ⟨bareLabel, soundPair.key.encode⟩ (by decide) (by decide)
  have envelopedBlock : Pem.parse envelopedFile = .ok ⟨envelopeLabel, soundPair.key.envelope⟩ :=
    Pem.parse_render ⟨envelopeLabel, soundPair.key.envelope⟩ (by decide) (by decide)
  obtain ⟨first, second, bare, enveloped, _, secondKey, samePem, _, opens⟩ :=
    files soundPair.key soundPair.checked _ _ bareBlock envelopedBlock "bare" "enveloped"
  refine ⟨first, second, bare, enveloped, samePem, oneKey _ _ _ bare, oneKey _ _ _ enveloped, ?_⟩
  have sound : second.key.primeP.Prime ∧ second.key.primeQ.Prime ∧ second.key.Matched := by
    rw [secondKey]
    exact ⟨prime_soundKey.1, prime_soundKey.2, matched_soundPair⟩
  obtain ⟨token, signed⟩ :=
    (exists_signClaims_iff_matched sound.1 sound.2.1 exampleClaims).mpr sound.2.2
  obtain ⟨compact, hint, parsed, opened⟩ := opens exampleClaims token signed
  exact ⟨token, compact, hint, signed, parsed, opened⟩

end Turnstile.KeyPair
