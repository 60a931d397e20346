import Turnstile.KeyPair
import Turnstile.Proofs.Bytes
set_option autoImplicit false

/-! Keys that passed their checks. They have the form that signatures are verified with, and
every signature that such a key makes verifies under its public half. Whether anybody else can
make one is not a question of this module. -/

namespace Turnstile

namespace Rsa

/-! ### Powers -/

private theorem powerOfDigits_lt {modulus : Nat} (positive : 0 < modulus) (digits : List Bool)
    (base result : Nat) : powerOfDigits modulus digits base result < modulus := by
  induction digits generalizing base result with
  | nil => exact Nat.mod_lt _ positive
  | cons digit digits ih => exact ih _ _

theorem power_lt {modulus : Nat} (positive : 0 < modulus) (base exponent : Nat) :
    power modulus base exponent < modulus :=
  powerOfDigits_lt positive _ _ _

/-! ### Checked keys -/

theorem of_demand {condition : Bool} {fault : KeyFault}
    (met : demand condition fault = .ok ()) : condition = true := by
  cases condition with
  | true => rfl
  | false => cases met

/-- What the checks on loading say of the numbers that signatures are verified with. -/
structure PublicKey.Checked (key : PublicKey) : Prop where
  odd : key.modulus % 2 = 1
  large : 256 ≤ Bytes.octetSize key.modulus
  bounded : Bytes.bitSize key.modulus ≤ 4096
  oddExponent : key.exponent % 2 = 1
  lowExponent : 65537 ≤ key.exponent
  highExponent : key.exponent ≤ PublicKey.largestExponent

theorem PrivateKey.toPublic_checked {key : PrivateKey} (checked : key.check = .ok ()) :
    key.toPublic.Checked := by
  unfold PrivateKey.check at checked
  obtain ⟨_, modulus, checked⟩ := bind_eq_ok checked
  obtain ⟨_, large, checked⟩ := bind_eq_ok checked
  obtain ⟨_, bounded, checked⟩ := bind_eq_ok checked
  obtain ⟨_, exponent, _⟩ := bind_eq_ok checked
  unfold checkModulus at modulus
  obtain ⟨_, _, modulus⟩ := bind_eq_ok modulus
  obtain ⟨_, _, odd⟩ := bind_eq_ok modulus
  unfold checkPublicExponent at exponent
  obtain ⟨_, _, exponent⟩ := bind_eq_ok exponent
  obtain ⟨_, _, exponent⟩ := bind_eq_ok exponent
  obtain ⟨_, lowExponent, exponent⟩ := bind_eq_ok exponent
  obtain ⟨_, highExponent, oddExponent⟩ := bind_eq_ok exponent
  exact {
    odd := of_decide_eq_true (of_demand odd)
    large := of_decide_eq_true (of_demand large)
    bounded := of_decide_eq_true (of_demand bounded)
    oddExponent := of_decide_eq_true (of_demand oddExponent)
    lowExponent := of_decide_eq_true (of_demand lowExponent)
    highExponent := of_decide_eq_true (of_demand highExponent) }

namespace PublicKey.Checked

variable {key : PublicKey}

theorem exponent_lt_modulus (checked : key.Checked) : key.exponent < key.modulus := by
  have large := checked.large
  unfold Bytes.octetSize at large
  have high := checked.highExponent
  unfold largestExponent at high
  have bits : 2 ^ 34 ≤ key.modulus :=
    Bytes.pow_le_of_lt_bitSize (by omega)
  omega

theorem usable (checked : key.Checked) : key.usable = true := by
  have low := checked.lowExponent
  have two : 2 ≤ key.exponent := by omega
  simp only [PublicKey.usable, checked.odd, checked.bounded, checked.oddExponent, two,
    checked.highExponent, checked.exponent_lt_modulus, decide_true, beq_self_eq_true,
    Bool.and_self]

end PublicKey.Checked

/-! ### Signatures -/

theorem verifies_of_sign {key : PrivateKey} (checked : key.check = .ok ()) {hash : Hash}
    {message signature : Bytes} (signed : sign key hash message = .ok signature) :
    verifies key.toPublic hash message signature = true := by
  have facts := PrivateKey.toPublic_checked checked
  have odd : key.modulus % 2 = 1 := facts.odd
  have positive : 0 < key.modulus := by omega
  unfold sign at signed
  split at signed
  · cases signed
  · simp only at signed
    split at signed
    · cases signed
    · rename_i padded padding
      split at signed
      · rename_i undone
        injection signed with written
        have below : power key.modulus padded key.privateExponent < key.modulus :=
          power_lt positive _ _
        have value : Bytes.toNat signature = power key.modulus padded key.privateExponent := by
          rw [← written, Bytes.toNat_ofNat]
          exact Nat.mod_eq_of_lt (Nat.lt_trans below (Bytes.lt_pow_octetSize key.modulus))
        have size : signature.length = Bytes.octetSize key.modulus := by
          rw [← written, Bytes.ofNat_length]
        simp only [verifies, facts.usable, value]
        simp only [PrivateKey.toPublic, size, below, undone, padding, beq_self_eq_true,
          decide_true, Bool.and_self]
      · cases signed

theorem length_of_verifies {key : PublicKey} {hash : Hash} {message signature : Bytes}
    (verified : verifies key hash message signature = true) :
    signature.length = Bytes.octetSize key.modulus := by
  simp only [verifies, Bool.and_eq_true, beq_iff_eq] at verified
  exact verified.1.1.2

theorem ne_nil_of_verifies {key : PublicKey} (checked : key.Checked) {hash : Hash}
    {message signature : Bytes} (verified : verifies key hash message signature = true) :
    signature ≠ [] := by
  rintro rfl
  have large := checked.large
  simp only [verifies, Bool.and_eq_true, beq_iff_eq, List.length_nil] at verified
  omega

end Rsa

end Turnstile
