import Turnstile.Proofs.Pem
import Turnstile.Proofs.Rsa.Trusted
set_option autoImplicit false

/-! Key files. Every pair of keys that passed its checks can be written down, and is read back from
what was written. -/

namespace Turnstile

namespace Rsa

theorem bitSize_of_checkPrime {bits value : Nat} (checked : checkPrime bits value = .ok ()) :
    Bytes.bitSize value = bits := by
  unfold checkPrime at checked
  obtain ⟨_, _, checked⟩ := bind_eq_ok checked
  obtain ⟨_, size, _⟩ := bind_eq_ok checked
  exact eq_of_beq (of_demand size)

namespace PrivateKey

def numbers (key : PrivateKey) : List Nat :=
  [key.modulus, key.publicExponent, key.privateExponent, key.primeP, key.primeQ, key.exponentP,
    key.exponentQ, key.coefficient]

/-- The numbers of a key in sequence, with the version that has two primes in front. -/
def encode (key : PrivateKey) : Bytes :=
  Der.sequence ((0 :: key.numbers).map Der.natural)

variable {key : PrivateKey}

theorem bitSize_of_check (checked : key.check = .ok ()) :
    ∀ number ∈ key.numbers, Bytes.bitSize number ≤ 4096 := by
  obtain ⟨_, _, modulus, _, _, publicExponent⟩ := PrivateKey.toPublic_checked checked
  unfold check at checked
  obtain ⟨_, _, checked⟩ := bind_eq_ok checked
  obtain ⟨_, _, checked⟩ := bind_eq_ok checked
  obtain ⟨_, _, checked⟩ := bind_eq_ok checked
  obtain ⟨_, _, checked⟩ := bind_eq_ok checked
  obtain ⟨_, primeP, checked⟩ := bind_eq_ok checked
  obtain ⟨_, primeQ, checked⟩ := bind_eq_ok checked
  obtain ⟨_, _, checked⟩ := bind_eq_ok checked
  obtain ⟨_, _, checked⟩ := bind_eq_ok checked
  obtain ⟨_, privateExponent, checked⟩ := bind_eq_ok checked
  obtain ⟨_, coefficient, checked⟩ := bind_eq_ok checked
  obtain ⟨_, _, checked⟩ := bind_eq_ok checked
  obtain ⟨_, exponentP, exponentQ⟩ := bind_eq_ok checked
  have modulus : Bytes.bitSize key.modulus ≤ 4096 := modulus
  have publicExponent : Bytes.bitSize key.publicExponent ≤ 40 := by
    have high : key.publicExponent ≤ PublicKey.largestExponent := publicExponent
    unfold PublicKey.largestExponent at high
    exact Bytes.bitSize_le (by omega)
  have primeP := bitSize_of_checkPrime primeP
  have primeQ := bitSize_of_checkPrime primeQ
  have privateExponent := Bytes.bitSize_mono
    (Nat.le_of_lt (of_decide_eq_true (Bool.and_eq_true_iff.mp (of_demand privateExponent)).2))
  have coefficient := Bytes.bitSize_mono (Nat.le_of_lt (of_decide_eq_true (of_demand coefficient)))
  have exponentP := Bytes.bitSize_mono
    (Nat.le_of_lt (of_decide_eq_true (Bool.and_eq_true_iff.mp (of_demand exponentP)).1))
  have exponentQ := Bytes.bitSize_mono
    (Nat.le_of_lt (of_decide_eq_true (Bool.and_eq_true_iff.mp (of_demand exponentQ)).1))
  simp only [numbers, List.forall_mem_cons, List.not_mem_nil, false_implies, implies_true, and_true]
  omega

private theorem length_naturalContent_of_bitSize {number : Nat}
    (small : Bytes.bitSize number ≤ 4096) : (Der.naturalContent number).length ≤ 513 := by
  have size := Der.length_naturalContent number
  unfold Bytes.octetSize at size
  omega

private theorem natural?_of_bitSize {number : Nat} (small : Bytes.bitSize number ≤ 4096)
    (rest : Bytes) : Der.natural? (Der.natural number ++ rest) = some (number, rest) := by
  have content := length_naturalContent_of_bitSize small
  exact Der.natural?_natural (by omega) rest

private theorem length_flatten_naturals {numbers : List Nat}
    (small : ∀ number ∈ numbers, Bytes.bitSize number ≤ 4096) :
    (numbers.map Der.natural).flatten.length ≤ 517 * numbers.length := by
  induction numbers with
  | nil => exact Nat.zero_le _
  | cons number rest ih =>
      obtain ⟨first, others⟩ := List.forall_mem_cons.mp small
      have content := length_naturalContent_of_bitSize first
      have element := Der.length_element Der.integerTag (Der.naturalContent number) (by omega)
      have tail := ih others
      rw [List.map_cons, List.flatten_cons, List.length_append, List.length_cons, Der.natural]
      omega

private theorem bitSize_of_mem (checked : key.check = .ok ()) :
    ∀ number ∈ 0 :: key.numbers, Bytes.bitSize number ≤ 4096 :=
  List.forall_mem_cons.mpr ⟨by decide, bitSize_of_check checked⟩

private theorem length_numbers (checked : key.check = .ok ()) :
    ((0 :: key.numbers).map Der.natural).flatten.length ≤ 4653 :=
  length_flatten_naturals (bitSize_of_mem checked)

theorem length_encode (checked : key.check = .ok ()) : key.encode.length ≤ 4657 := by
  have content := length_numbers checked
  have element := Der.length_element Der.sequenceTag _ (Nat.lt_of_le_of_lt content (by decide))
  rw [encode, Der.sequence]
  omega

/-- The encoding of a checked key is read as this key. -/
theorem ofNumbers_encode (checked : key.check = .ok ()) : ofNumbers key.encode = .ok key := by
  have small := bitSize_of_mem checked
  have outer := Der.expect?_element (by decide : Der.sequenceTag.toNat % 32 ≠ 31)
    (Nat.lt_of_le_of_lt (length_numbers checked) (by decide)) []
  rw [List.append_nil] at outer
  simp only [numbers, List.forall_mem_cons, List.not_mem_nil, false_implies, implies_true,
    and_true] at small
  obtain ⟨zero, modulus, publicExponent, privateExponent, primeP, primeQ, exponentP, exponentQ,
    coefficient⟩ := small
  have read : components (key.numbers.map Der.natural).flatten = .ok (key, []) := by
    simp only [components, numbers, List.map_cons, List.map_nil, List.flatten_cons, encoded, bind,
      Except.bind, natural?_of_bitSize modulus, natural?_of_bitSize publicExponent,
      natural?_of_bitSize privateExponent, natural?_of_bitSize primeP, natural?_of_bitSize primeQ,
      natural?_of_bitSize exponentP, natural?_of_bitSize exponentQ,
      natural?_of_bitSize coefficient]
    rfl
  have numbered : version ((0 :: key.numbers).map Der.natural).flatten =
      .ok (0, (key.numbers.map Der.natural).flatten) := by
    rw [version, List.map_cons, List.flatten_cons, natural?_of_bitSize zero]
    rfl
  rw [ofNumbers, encode, Der.sequence, outer]
  simp only [encoded, numbered, read, checked, bind, Except.bind]
  rfl

end PrivateKey

end Rsa

namespace KeyPair

/-- The file that a pair is kept in. -/
def file (pair : KeyPair) : Bytes := Utf8.encode (Pem.render ⟨bareLabel, pair.key.encode⟩)

theorem ofPem_file (pair : KeyPair) : ofPem pair.kid pair.file = .ok pair := by
  have labelled : bareLabel ≠ "" := by decide
  have dashless : '-' ∉ bareLabel.toList := by decide
  have block := Pem.parse_render ⟨bareLabel, pair.key.encode⟩ labelled dashless
  have read := Rsa.PrivateKey.ofNumbers_encode pair.checked
  rw [ofPem, file, block]
  simp only [ofBlock]
  rw [if_pos trivial]
  split
  · rename_i found
    cases found.symm.trans read
    rfl
  · rename_i found
    cases found.symm.trans read

end KeyPair

end Turnstile
