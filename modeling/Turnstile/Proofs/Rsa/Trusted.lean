import Turnstile.Rsa.Trusted
import Turnstile.Proofs.Asn1
import Turnstile.Proofs.Pem
import Turnstile.Proofs.Rsa.Signature
set_option autoImplicit false

/-! The public half of a loaded key as policies are told it. Its text is a key that the token
check can use, and the key in it is the one that credentials are validated with. -/

namespace Turnstile

namespace Der

theorem length_naturalContent (value : Nat) :
    (naturalContent value).length ≤ Bytes.octetSize value + 1 := by
  have size := Bytes.length_ofNatMinimal value
  unfold naturalContent
  cases digits : Bytes.ofNatMinimal value with
  | nil => simp
  | cons first rest =>
      rw [digits, List.length_cons] at size
      by_cases small : first.toNat < 0x80
      · simp only [if_pos small, List.length_cons]
        omega
      · simp only [if_neg small, List.length_cons]
        omega

theorem length_lengthOctets {size : Nat} (small : size < 2 ^ 16) :
    (lengthOctets size).length ≤ 3 := by
  have digits : (Bytes.ofNatMinimal size).length ≤ 2 := by
    rw [Bytes.length_ofNatMinimal]
    exact Bytes.octetSize_le small
  unfold lengthOctets
  by_cases short : size < 0x80
  · rw [if_pos short, List.length_singleton]
    omega
  · rw [if_neg short, List.length_cons]
    omega

theorem length_element (tag : UInt8) (content : Bytes) (small : content.length < 2 ^ 16) :
    (element tag content).length ≤ content.length + 4 := by
  have octets := length_lengthOctets small
  rw [element, List.length_append, List.length_cons]
  omega

/-- The strict reader reads a length back, since it is written in its shortest form. -/
private theorem strictLength?_lengthOctets {size : Nat} (small : size < 2 ^ 16) (rest : Bytes) :
    length? (lengthOctets size ++ rest) = some (size, rest) := by
  have octet : ∀ value < 256, (UInt8.ofNat value).toNat = value :=
    fun value below => Utf8.toNat_ofNat_octet below
  unfold lengthOctets
  by_cases short : size < 0x80
  · rw [if_pos short, List.singleton_append, length?.eq_def]
    simp only [octet size (by omega), if_pos short]
  · rw [if_neg short, Bytes.ofNatMinimal]
    by_cases one : size < 0x100
    · have single : Bytes.octetSize size = 0 + 1 := Bytes.octetSize_eq (by omega) (by omega)
      rw [single]
      have marker : ¬ (UInt8.ofNat (0x80 + 1)).toNat < 0x80 := by decide
      simp only [Bytes.ofNat, List.nil_append, List.length_singleton, List.cons_append,
        length?.eq_def, if_neg marker, octet size one, if_neg short]
      rfl
    · have double : Bytes.octetSize size = 1 + 1 := Bytes.octetSize_eq (by omega) (by omega)
      rw [double]
      have marker : ¬ (UInt8.ofNat (0x80 + 2)).toNat < 0x80 ∧
          ¬ UInt8.ofNat (0x80 + 2) = 0x81 ∧ UInt8.ofNat (0x80 + 2) = 0x82 := by decide
      have two : [UInt8.ofNat (size / 256), UInt8.ofNat size].length = 2 := rfl
      have low : (UInt8.ofNat size).toNat = size % 256 := UInt8.toNat_ofNat'
      have sum : size / 256 * 256 + size % 256 = size := Nat.div_add_mod' size 256
      simp only [Bytes.ofNat, List.nil_append, two, List.cons_append, length?.eq_def,
        if_neg marker.1, if_neg marker.2.1, if_pos marker.2.2,
        octet (size / 256) (by omega), low, sum, if_neg one]

theorem expect?_element {tag : UInt8} {content : Bytes} (plain : tag.toNat % 32 ≠ 31)
    (small : content.length < 2 ^ 16) (rest : Bytes) :
    expect? tag (element tag content ++ rest) = some (content, rest) := by
  have fits : content.length ≤ (content ++ rest).length := by
    rw [List.length_append]
    omega
  simp only [expect?, element, List.cons_append, List.append_assoc, element?, if_neg plain,
    strictLength?_lengthOctets small, if_pos fits, List.take_left, List.drop_left, if_true]

private theorem naturalOf?_naturalContent (value : Nat) :
    naturalOf? (naturalContent value) = some value := by
  have written := Bytes.toNat_ofNatMinimal value
  rcases Nat.eq_zero_or_pos value with rfl | positive
  · rfl
  · obtain ⟨first, rest, digits, filled⟩ := Bytes.ofNatMinimal_head positive
    rw [digits] at written
    have notZero : first ≠ 0 := by
      rintro rfl
      exact absurd filled (by decide)
    unfold naturalContent
    rw [digits]
    by_cases small : first.toNat < 0x80
    · simp only [if_pos small]
      cases rest with
      | nil =>
          have same : first.toNat = value := by
            rw [← written]
            simp [Bytes.toNat]
          rw [naturalOf?, if_pos small, same]
      | cons second rest =>
          rw [naturalOf?, if_neg (by omega), if_neg (fun zero => notZero zero.1), written]
    · have zero : ¬ 0x80 ≤ (0 : UInt8).toNat := by decide
      simp only [if_neg small]
      rw [naturalOf?, if_neg zero, if_neg (fun low => small low.2), Bytes.toNat_zero_cons, written]

theorem natural?_natural {value : Nat} (small : (naturalContent value).length < 2 ^ 16)
    (rest : Bytes) : natural? (natural value ++ rest) = some (value, rest) := by
  rw [natural?, natural, expect?_element (by decide) small]
  simp only [bind, Option.bind_some, naturalOf?_naturalContent, pure]

end Der

namespace Rsa

private theorem length_naturalContent_checked {key : PublicKey} (checked : key.Checked) :
    (Der.naturalContent key.modulus).length < 2 ^ 15 ∧
      (Der.naturalContent key.exponent).length < 2 ^ 15 - 8 := by
  constructor
  · have size := Der.length_naturalContent key.modulus
    have bits : Bytes.bitSize key.modulus ≤ 4096 := checked.bounded
    unfold Bytes.octetSize at size
    omega
  · have size := Der.length_naturalContent key.exponent
    have high : key.exponent ≤ PublicKey.largestExponent := checked.highExponent
    have octets : Bytes.octetSize key.exponent ≤ 5 := by
      apply Bytes.octetSize_le
      unfold PublicKey.largestExponent at high
      omega
    omega

private theorem PublicKey.elements_encode {key : PublicKey} (checked : key.Checked) :
    ∃ content last, Der.expect? Der.sequenceTag key.encode = some (content, []) ∧
      Der.natural? content = some (key.modulus, last) ∧
      Der.natural? last = some (key.exponent, []) := by
  obtain ⟨modulus, exponent⟩ := length_naturalContent_checked checked
  have first := Der.length_element Der.integerTag (Der.naturalContent key.modulus) (by omega)
  have second := Der.length_element Der.integerTag (Der.naturalContent key.exponent) (by omega)
  have elements : [Der.natural key.modulus, Der.natural key.exponent].flatten =
      Der.natural key.modulus ++ (Der.natural key.exponent ++ []) := rfl
  have content : (Der.natural key.modulus ++ (Der.natural key.exponent ++ [])).length <
      2 ^ 16 := by
    rw [Der.natural, Der.natural, List.length_append, List.append_nil]
    omega
  have outer := Der.expect?_element (by decide : Der.sequenceTag.toNat % 32 ≠ 31) content []
  rw [List.append_nil] at outer
  refine ⟨_, _, ?_, Der.natural?_natural (Nat.lt_trans modulus (by decide)) _,
    Der.natural?_natural (Nat.lt_trans exponent (by decide)) []⟩
  rw [encode, Der.sequence, elements, outer]

theorem PublicKey.decode?_encode_of_checked {key : PublicKey} (checked : key.Checked) :
    decode? key.encode = some key := by
  obtain ⟨content, last, outer, modulus, exponent⟩ := elements_encode checked
  simp only [decode?, outer, modulus, exponent, bind, Option.bind_some, List.isEmpty_nil, and_self,
    if_true, pure]

/-- The encoding of a checked key has the form that a search for a key asks for. -/
private theorem PublicKey.parse?_encode {key : PublicKey} (checked : key.Checked) :
    Asn1.parse? key.encode = some [.sequence [.other, .other]] := by
  obtain ⟨content, last, outer, modulus, exponent⟩ := elements_encode checked
  have inner := Asn1.Reads.natural modulus (.lastNatural exponent)
  exact (Asn1.Reads.last (Der.element?_of_expect? outer) (.sequence inner)).parse?_eq

/-- The text of a public key of a loaded pair is accepted where a key is asked for, and holds the
encoding of this key. -/
theorem trustedOctets_publicPem (pair : KeyPair) :
    trustedOctets (Utf8.encode pair.publicPem) = .ok pair.publicKey.encode := by
  have checked : pair.publicKey.Checked := PrivateKey.toPublic_checked pair.checked
  have labelled : KeyPair.publicLabel ≠ "" := by decide
  have dashless : '-' ∉ KeyPair.publicLabel.toList := by decide
  have block := Pem.parse_render ⟨KeyPair.publicLabel, pair.publicKey.encode⟩ labelled dashless
  have label : KeyPair.publicLabel = "RSA PUBLIC KEY" := rfl
  rw [KeyPair.publicPem, trustedOctets, block]
  simp only [PublicKey.parse?_encode checked]
  rw [if_pos (Or.inl label)]

end Rsa

end Turnstile
