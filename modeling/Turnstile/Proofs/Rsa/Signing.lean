import Mathlib.Data.Nat.ModEq
import Turnstile.Proofs.Rsa.KeyFile
import Turnstile.Proofs.Rsa.Power
set_option autoImplicit false

/-! Which keys can sign. The checks on loading never compare the private exponent with the public
one. Signing does, and refuses numbers that do not belong together. If the factors of the modulus
are prime, a key whose exponents undo each other signs every message. -/

namespace Turnstile.Rsa

/-! ### Padded digests -/

private theorem length_digestInfo (hash : Hash) (message : Bytes) :
    (hash.digestInfo message).length ≤ 93 := by
  have digest : (hash.digest message).length ≤ 64 := by
    cases hash with
    | sha256 => exact (List.length_take_le _ _).trans (by decide)
    | sha384 => exact (List.length_take_le _ _).trans (by decide)
    | sha512 => exact (List.length_take_le _ _).trans (by decide)
  have identifier := Der.length_element Der.objectIdentifierTag
    [0x60, 0x86, 0x48, 0x01, 0x65, 0x03, 0x04, 0x02, hash.identifier] (by simp)
  have parameters := Der.length_element Der.nullTag [] (by simp)
  have octets := Der.length_element Der.octetStringTag (hash.digest message) (by omega)
  simp only [List.length_cons, List.length_nil] at identifier parameters
  have algorithm := Der.length_element Der.sequenceTag
    [Der.element Der.objectIdentifierTag
        [0x60, 0x86, 0x48, 0x01, 0x65, 0x03, 0x04, 0x02, hash.identifier],
      Der.element Der.nullTag []].flatten
    (by simp only [List.flatten_cons, List.flatten_nil, List.length_append, List.length_nil]; omega)
  simp only [List.flatten_cons, List.flatten_nil, List.length_append, List.length_nil] at algorithm
  refine (Der.length_element _ _ ?_).trans ?_
  · simp only [Der.sequence, List.flatten_cons, List.flatten_nil, List.length_append,
      List.length_nil]
    omega
  · simp only [Der.sequence, List.flatten_cons, List.flatten_nil, List.length_append,
      List.length_nil]
    omega

/-- A large modulus has room for every digest, and the padded digest is below it. -/
theorem exists_paddedDigest? {modulus : Nat} (large : 256 ≤ Bytes.octetSize modulus) (hash : Hash)
    (message : Bytes) :
    ∃ padded, paddedDigest? hash message (Bytes.octetSize modulus) = some padded ∧
      padded < modulus := by
  have info := length_digestInfo hash message
  obtain ⟨size, octets⟩ := Nat.exists_eq_succ_of_ne_zero (n := Bytes.octetSize modulus) (by omega)
  refine ⟨_, if_pos (by omega), ?_⟩
  refine Nat.lt_of_lt_of_le ?_ (Bytes.pow_le_of_octetSize octets)
  rw [List.cons_append, List.cons_append, List.cons_append, Bytes.toNat_zero_cons]
  refine (Bytes.toNat_lt _).trans_le (Nat.pow_le_pow_right (by decide) ?_)
  simp only [List.length_cons, List.length_append, List.length_replicate, List.length_nil]
  omega

/-! ### Numbers that belong together -/

namespace PrivateKey

variable {key : PrivateKey}

/-- What the checks on loading say of the factors of the modulus and of the private exponent. -/
structure Factored (key : PrivateKey) : Prop where
  sizeP : Bytes.bitSize key.primeP = (Bytes.bitSize key.modulus + 1) / 2
  sizeQ : Bytes.bitSize key.primeQ = (Bytes.bitSize key.modulus + 1) / 2
  product : key.modulus ∣ key.primeP * key.primeQ
  apart : key.primeP ≠ key.primeQ
  positive : 0 < key.privateExponent

theorem factored_of_check (checked : key.check = .ok ()) : key.Factored := by
  unfold check at checked
  obtain ⟨_, _, checked⟩ := bind_eq_ok checked
  obtain ⟨_, _, checked⟩ := bind_eq_ok checked
  obtain ⟨_, _, checked⟩ := bind_eq_ok checked
  obtain ⟨_, _, checked⟩ := bind_eq_ok checked
  obtain ⟨_, primeP, checked⟩ := bind_eq_ok checked
  obtain ⟨_, primeQ, checked⟩ := bind_eq_ok checked
  obtain ⟨_, product, checked⟩ := bind_eq_ok checked
  obtain ⟨_, _, checked⟩ := bind_eq_ok checked
  obtain ⟨_, privateExponent, checked⟩ := bind_eq_ok checked
  obtain ⟨_, _, checked⟩ := bind_eq_ok checked
  obtain ⟨_, coefficient, _⟩ := bind_eq_ok checked
  have large := of_decide_eq_true (Bool.and_eq_true_iff.mp (of_demand privateExponent)).1
  refine ⟨bitSize_of_checkPrime primeP, bitSize_of_checkPrime primeQ,
    Nat.dvd_of_mod_eq_zero (eq_of_beq (of_demand product)), ?apart, ?positive⟩
  case apart =>
    intro same
    have one := eq_of_beq (of_demand coefficient)
    rw [same, Nat.mul_mod_left] at one
    cases one
  case positive =>
    apply Nat.pos_of_ne_zero
    intro zero
    rw [zero] at large
    exact Nat.not_lt_zero _ large

theorem Factored.product_eq (factored : key.Factored) (large : 256 ≤ Bytes.octetSize key.modulus)
    (primeP : key.primeP.Prime) (primeQ : key.primeQ.Prime) :
    key.primeP * key.primeQ = key.modulus := by
  have sizeP := factored.sizeP
  have sizeQ := factored.sizeQ
  unfold Bytes.octetSize at large
  obtain ⟨first, second, inP, inQ, product⟩ := Nat.dvd_mul.mp factored.product
  rcases (Nat.dvd_prime primeP).mp inP with rfl | rfl
  · rcases (Nat.dvd_prime primeQ).mp inQ with rfl | rfl
    · rw [← product] at large
      exact absurd large (by decide)
    · rw [one_mul] at product
      rw [product] at sizeQ
      omega
  · rcases (Nat.dvd_prime primeQ).mp inQ with rfl | rfl
    · rw [mul_one] at product
      rw [product] at sizeP
      omega
    · exact product

/-- The exponents undo each other: modulo either factor less one, their product is one. -/
structure Matched (key : PrivateKey) : Prop where
  moduloP : key.privateExponent * key.publicExponent ≡ 1 [MOD key.primeP - 1]
  moduloQ : key.privateExponent * key.publicExponent ≡ 1 [MOD key.primeQ - 1]

theorem coherent_iff : key.coherent = true ↔
    key.primeP * key.primeQ = key.modulus ∧ 1 < key.primeP ∧ 1 < key.primeQ ∧ key.Matched := by
  simp only [coherent, Bool.and_eq_true, beq_iff_eq, decide_eq_true_eq]
  constructor
  · rintro ⟨⟨⟨⟨product, largeP⟩, largeQ⟩, moduloP⟩, moduloQ⟩
    exact ⟨product, largeP, largeQ, moduloP, moduloQ⟩
  · rintro ⟨product, largeP, largeQ, moduloP, moduloQ⟩
    exact ⟨⟨⟨⟨product, largeP⟩, largeQ⟩, moduloP⟩, moduloQ⟩

/-- If the factors are prime, a checked key lacks nothing but matched exponents. -/
theorem coherent_iff_matched (checked : key.check = .ok ()) (primeP : key.primeP.Prime)
    (primeQ : key.primeQ.Prime) : key.coherent = true ↔ key.Matched := by
  have product := (factored_of_check checked).product_eq (toPublic_checked checked).large primeP
    primeQ
  rw [coherent_iff]
  exact ⟨fun facts => facts.2.2.2, fun matched =>
    ⟨product, primeP.one_lt, primeQ.one_lt, matched⟩⟩

/-- Raised to both exponents, a number is itself again. -/
def Restores (key : PrivateKey) (value : Nat) : Prop :=
  value ^ (key.privateExponent * key.publicExponent) ≡ value [MOD key.modulus]

theorem Matched.restores (matched : key.Matched) (checked : key.check = .ok ())
    (primeP : key.primeP.Prime) (primeQ : key.primeQ.Prime) (value : Nat) : key.Restores value := by
  have publicHalf := toPublic_checked checked
  have factored := factored_of_check checked
  have lowExponent : 65537 ≤ key.publicExponent := publicHalf.lowExponent
  have positive : 0 < key.privateExponent * key.publicExponent :=
    Nat.mul_pos factored.positive (by omega)
  have coprime := (Nat.coprime_primes primeP primeQ).mpr factored.apart
  rw [Restores, ← factored.product_eq publicHalf.large primeP primeQ,
    ← Nat.modEq_and_modEq_iff_modEq_mul coprime]
  exact ⟨pow_modEq_self primeP positive matched.moduloP value,
    pow_modEq_self primeQ positive matched.moduloQ value⟩

end PrivateKey

/-! ### Signing -/

section Sign

variable {key : PrivateKey} (hash : Hash) (message : Bytes)

theorem sign_of_incoherent (incoherent : key.coherent = false) :
    sign key hash message = .error .malformedKey := by
  rw [sign, incoherent]
  rfl

/-- Numbers that belong together sign a message exactly if they restore its padded digest. -/
theorem sign_of_coherent (coherent : key.coherent = true) {padded : Nat}
    (padding : paddedDigest? hash message (Bytes.octetSize key.modulus) = some padded)
    (below : padded < key.modulus) :
    (key.Restores padded ∧ ∃ signature, sign key hash message = .ok signature) ∨
      (¬ key.Restores padded ∧ sign key hash message = .error .internal) := by
  have reduced : power key.modulus (power key.modulus padded key.privateExponent)
      key.publicExponent < key.modulus := power_lt (Nat.zero_lt_of_lt below) _ _
  have raised : power key.modulus (power key.modulus padded key.privateExponent)
      key.publicExponent ≡ padded ^ (key.privateExponent * key.publicExponent)
        [MOD key.modulus] := by
    rw [pow_mul]
    exact (power_modEq _ _ _).trans ((power_modEq _ _ _).pow _)
  unfold sign
  simp only [coherent, Bool.not_true, Bool.false_eq_true, if_false, padding]
  split
  · rename_i undone
    rw [undone] at raised
    exact Or.inl ⟨raised.symm, _, rfl⟩
  · rename_i lost
    refine Or.inr ⟨fun restored => lost ?_, rfl⟩
    exact Nat.ModEq.eq_of_lt_of_lt (raised.trans restored) reduced below

end Sign

end Turnstile.Rsa
