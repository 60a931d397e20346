import Mathlib.Tactic.NormNum.Prime
import Turnstile.Proofs.Credential.RoundTrip
import Turnstile.Proofs.KeyStore
import Turnstile.Proofs.Rsa.Signing
set_option autoImplicit false

/-! Signing with loaded keys. That a key loads does not mean that it can sign: nothing on loading
compares its exponents. Whether claims are signed is a question of the numbers of the key alone, and
where these belong together nothing goes wrong with any claims. -/

namespace Turnstile

namespace KeyPair

/-- The number that is signed for some claims is restored by the numbers of the key. -/
def Restores (pair : KeyPair) (claims : Claims) : Prop :=
  ∃ padded, Rsa.paddedDigest? .sha256 (pair.unsigned claims).signedOctets
      (Bytes.octetSize pair.key.modulus) = some padded ∧ pair.key.Restores padded

/-- What can come of signing claims. Whether the numbers of the key belong together is asked first. -/
inductive Signs (pair : KeyPair) (claims : Claims) : Except Rsa.SigningFault String → Prop where
  | signed {token : String} (coherent : pair.key.coherent = true)
      (restored : pair.Restores claims) : Signs pair claims (.ok token)
  | spoiled (coherent : pair.key.coherent = true) (lost : ¬ pair.Restores claims) :
      Signs pair claims (.error .internal)
  | mismatched (incoherent : pair.key.coherent = false) : Signs pair claims (.error .malformedKey)

theorem signs_signClaims (pair : KeyPair) (claims : Claims) :
    pair.Signs claims (pair.signClaims claims) := by
  have signing : pair.signClaims claims =
      (Rsa.sign pair.key .sha256 (pair.unsigned claims).signedOctets).map fun signature =>
        { pair.unsigned claims with signature := Base64.encodeUrl signature }.render := rfl
  rw [signing]
  cases coherent : pair.key.coherent with
  | false =>
      rw [Rsa.sign_of_incoherent _ _ coherent]
      exact .mismatched coherent
  | true =>
      obtain ⟨padded, padding, below⟩ := Rsa.exists_paddedDigest?
        (Rsa.PrivateKey.toPublic_checked pair.checked).large .sha256
        (pair.unsigned claims).signedOctets
      rcases Rsa.sign_of_coherent _ _ coherent padding below with
        ⟨restored, signature, made⟩ | ⟨lost, failed⟩
      · rw [made]
        exact .signed coherent ⟨padded, padding, restored⟩
      · rw [failed]
        refine .spoiled coherent ?_
        rintro ⟨other, same, restored⟩
        cases same.symm.trans padding
        exact lost restored

theorem restores_of_matched {pair : KeyPair} (primeP : pair.key.primeP.Prime)
    (primeQ : pair.key.primeQ.Prime) (matched : pair.key.Matched) (claims : Claims) :
    pair.Restores claims := by
  obtain ⟨padded, padding, _⟩ := Rsa.exists_paddedDigest?
    (Rsa.PrivateKey.toPublic_checked pair.checked).large .sha256 (pair.unsigned claims).signedOctets
  exact ⟨padded, padding, matched.restores pair.checked primeP primeQ padded⟩

theorem exists_signClaims_iff (pair : KeyPair) (claims : Claims) :
    (∃ token, pair.signClaims claims = .ok token) ↔
      pair.key.coherent = true ∧ pair.Restores claims := by
  have outcome := pair.signs_signClaims claims
  generalize pair.signClaims claims = result at outcome
  cases outcome with
  | signed coherent restored => exact iff_of_true ⟨_, rfl⟩ ⟨coherent, restored⟩
  | spoiled _ lost => exact iff_of_false (by simp) fun facts => lost facts.2
  | mismatched incoherent => exact iff_of_false (by simp) (by simp [incoherent])

theorem signClaims_eq_malformedKey_iff (pair : KeyPair) (claims : Claims) :
    pair.signClaims claims = .error .malformedKey ↔ pair.key.coherent = false := by
  have outcome := pair.signs_signClaims claims
  generalize pair.signClaims claims = result at outcome
  cases outcome with
  | signed coherent _ => exact iff_of_false (by simp) (by simp [coherent])
  | spoiled coherent _ => exact iff_of_false (by simp) (by simp [coherent])
  | mismatched incoherent => exact iff_of_true rfl incoherent

theorem signClaims_eq_internal_iff (pair : KeyPair) (claims : Claims) :
    pair.signClaims claims = .error .internal ↔
      pair.key.coherent = true ∧ ¬ pair.Restores claims := by
  have outcome := pair.signs_signClaims claims
  generalize pair.signClaims claims = result at outcome
  cases outcome with
  | signed _ restored => exact iff_of_false (by simp) fun facts => facts.2 restored
  | spoiled coherent lost => exact iff_of_true rfl ⟨coherent, lost⟩
  | mismatched incoherent => exact iff_of_false (by simp) (by simp [incoherent])

/-- Over prime factors, matched exponents are all that signing asks for. -/
theorem exists_signClaims_iff_matched {pair : KeyPair} (primeP : pair.key.primeP.Prime)
    (primeQ : pair.key.primeQ.Prime) (claims : Claims) :
    (∃ token, pair.signClaims claims = .ok token) ↔ pair.key.Matched := by
  rw [exists_signClaims_iff, Rsa.PrivateKey.coherent_iff_matched pair.checked primeP primeQ]
  exact ⟨And.left, fun matched => ⟨matched, restores_of_matched primeP primeQ matched claims⟩⟩

end KeyPair

namespace KeyStore

/-- Every key of a store signs whatever claims it is given. -/
def CanSign (keys : KeyStore) : Prop :=
  ∀ pair ∈ keys.pairs, ∀ claims, ∃ token, pair.signClaims claims = .ok token

theorem canSign_of_matched {keys : KeyStore}
    (matched : ∀ pair ∈ keys.pairs, pair.key.primeP.Prime ∧ pair.key.primeQ.Prime ∧
      pair.key.Matched) : keys.CanSign := by
  intro pair member claims
  obtain ⟨primeP, primeQ, exponents⟩ := matched pair member
  exact (KeyPair.exists_signClaims_iff_matched primeP primeQ claims).mpr exponents

theorem issueClaims_eq_of_get {keys : KeyStore} {kid : String} {pair : KeyPair}
    (found : keys.get kid = .ok pair) {claims : Claims}
    (lasting : claims.issuedAt.toInt < claims.expires.toInt) :
    keys.issueClaims kid claims = (pair.signClaims claims).mapError .signing := by
  rw [issueClaims, if_neg (Int.not_le.mpr lasting)]
  simp only [found]
  cases pair.signClaims claims with
  | ok token => rfl
  | error fault => rfl

private theorem mapError_eq_ok_iff (signed : Except Rsa.SigningFault String) (token : String) :
    signed.mapError IssueError.signing = .ok token ↔ signed = .ok token := by
  cases signed <;> simp [Except.mapError]

private theorem mapError_eq_error_iff (signed : Except Rsa.SigningFault String)
    (fault : Rsa.SigningFault) :
    signed.mapError IssueError.signing = .error (.signing fault) ↔ signed = .error fault := by
  cases signed <;> simp [Except.mapError]

/-- With a key that has been loaded, claims are issued exactly if the numbers of the key belong
together and restore what is signed. Where its factors are prime, its exponents have to match and no
more, and nothing on loading asks for that. -/
theorem issueClaims_of_loaded {entries : List (String × Bytes)} {store : KeyStore}
    (made : ofEntries entries = .ok store) {kid : String} (listed : kid ∈ store.kids)
    {claims : Claims} (lasting : claims.issuedAt.toInt < claims.expires.toInt) :
    ∃ text pair, (kid, text) ∈ entries ∧ KeyPair.ofPem kid text = .ok pair ∧
      ((∃ token, store.issueClaims kid claims = .ok token) ↔
        pair.key.coherent = true ∧ pair.Restores claims) ∧
      (store.issueClaims kid claims = .error (.signing .malformedKey) ↔
        pair.key.coherent = false) ∧
      (store.issueClaims kid claims = .error (.signing .internal) ↔
        pair.key.coherent = true ∧ ¬ pair.Restores claims) ∧
      (pair.key.primeP.Prime → pair.key.primeQ.Prime →
        ((∃ token, store.issueClaims kid claims = .ok token) ↔ pair.key.Matched)) := by
  have faithful := (holds_of_ofEntries made).2.faithful
  obtain ⟨⟨_, text⟩, member, rfl⟩ := List.mem_map.mp ((faithful.kids kid).mp listed)
  obtain ⟨pair, read, _, found, _⟩ := faithful.listed _ text member
  refine ⟨text, pair, member, read, ?_⟩
  simp only [issueClaims_eq_of_get found lasting, mapError_eq_ok_iff, mapError_eq_error_iff]
  exact ⟨pair.exists_signClaims_iff claims, pair.signClaims_eq_malformedKey_iff claims,
    pair.signClaims_eq_internal_iff claims, fun primeP primeQ =>
      KeyPair.exists_signClaims_iff_matched primeP primeQ claims⟩

end KeyStore

theorem KeyPair.eq_of_ofPem_file (pair : KeyPair) {other : KeyPair} {kid : String}
    (named : pair.kid = kid) (read : ofPem kid pair.file = .ok other) : other = pair := by
  subst named
  exact Except.ok.inj (read.symm.trans pair.ofPem_file)

/-- A store of one pair. -/
def KeyStore.ofPair (pair : KeyPair) : KeyStore where
  pairs := [pair]
  sorted := List.pairwise_singleton _ _
  nonempty := List.cons_ne_nil _ _

/-- A key whose factors are prime beyond doubt. -/
def soundKey : Rsa.PrivateKey :=
  let p := 3931 * 2 ^ 1012 + 1
  let q := 4211 * 2 ^ 1011 + 1
  let exponent := (52812 * ((p - 1) * (q - 1)) + 1) / 65537
  { modulus := p * q
    publicExponent := 65537
    privateExponent := exponent
    primeP := p
    primeQ := q
    exponentP := exponent % (p - 1)
    exponentQ := exponent % (q - 1)
    coefficient := Rsa.power p q (p - 2) }

theorem prime_soundKey : soundKey.primeP.Prime ∧ soundKey.primeQ.Prime := by
  constructor
  · exact Rsa.prime_of_powers 3 (by norm_num) (by decide +kernel) (by decide +kernel)
      (by decide +kernel)
  · exact Rsa.prime_of_powers 3 (by norm_num) (by decide +kernel) (by decide +kernel)
      (by decide +kernel)

def soundPair : KeyPair := ⟨"main", soundKey, by decide +kernel⟩

theorem matched_soundPair : soundPair.key.Matched := by
  have coherent : soundPair.key.coherent = true := by decide +kernel
  exact (Rsa.PrivateKey.coherent_iff.mp coherent).2.2.2

theorem canSign_soundPair : (KeyStore.ofPair soundPair).CanSign := by
  refine KeyStore.canSign_of_matched ?_
  intro pair member
  rw [List.mem_singleton.mp member]
  exact ⟨prime_soundKey.1, prime_soundKey.2, matched_soundPair⟩

/-- The same with another private exponent. Every check on loading passes. -/
def mismatchedPair : KeyPair :=
  ⟨"main", { soundKey with privateExponent := soundKey.privateExponent + 2 }, by decide +kernel⟩

/-- Both keys load, and one of them signs. -/
theorem issueClaims_of_loaded_example :
    KeyStore.ofEntries [("main", soundPair.file)] = .ok (.ofPair soundPair) ∧
      KeyStore.ofEntries [("main", mismatchedPair.file)] = .ok (.ofPair mismatchedPair) ∧
      (∃ token, (KeyStore.ofPair soundPair).issueClaims "main" exampleClaims = .ok token) ∧
      (KeyStore.ofPair mismatchedPair).issueClaims "main" exampleClaims =
        .error (.signing .malformedKey) := by
  have soundMade : KeyStore.ofEntries [("main", soundPair.file)] = .ok (.ofPair soundPair) :=
    KeyStore.ofEntries_files (.ofPair soundPair)
  have mismatchedMade :
      KeyStore.ofEntries [("main", mismatchedPair.file)] = .ok (.ofPair mismatchedPair) :=
    KeyStore.ofEntries_files (.ofPair mismatchedPair)
  have lasting : exampleClaims.issuedAt.toInt < exampleClaims.expires.toInt := by decide
  have soundListed : "main" ∈ (KeyStore.ofPair soundPair).kids := List.mem_singleton_self _
  have mismatchedListed : "main" ∈ (KeyStore.ofPair mismatchedPair).kids :=
    List.mem_singleton_self _
  refine ⟨soundMade, mismatchedMade, ?_, ?_⟩
  · obtain ⟨text, pair, member, read, _, _, _, signs⟩ :=
      KeyStore.issueClaims_of_loaded soundMade soundListed lasting
    rw [(Prod.mk.inj (List.mem_singleton.mp member)).2] at read
    rw [soundPair.eq_of_ofPem_file rfl read] at signs
    exact (signs prime_soundKey.1 prime_soundKey.2).mpr matched_soundPair
  · obtain ⟨text, pair, member, read, _, refuses, _⟩ :=
      KeyStore.issueClaims_of_loaded mismatchedMade mismatchedListed lasting
    rw [(Prod.mk.inj (List.mem_singleton.mp member)).2] at read
    rw [mismatchedPair.eq_of_ofPem_file rfl read] at refuses
    exact refuses.mpr (by decide +kernel)

end Turnstile
