import Turnstile.Proofs.Rsa.KeyFile
import Turnstile.Rsa.Trusted
set_option autoImplicit false

/-! Private keys alone and in envelopes. Whatever the strict reading of a key file accepts, the
tolerant search for a key finds the very same octets in. -/

namespace Turnstile.Rsa

open Asn1 (Node Reads Stands)

private theorem eq_some_of_encoded {Value : Type} {read : Option Value} {value : Value}
    (success : encoded read = .ok value) : read = some value := by
  cases read with
  | none => cases success
  | some _ => exact congrArg some (Except.ok.inj success)

private theorem exists_of_map_snd {First Second : Type} {step : Except KeyFault (First × Second)}
    {second : Second} (success : step.map Prod.snd = .ok second) :
    ∃ first, step = .ok (first, second) := by
  cases step with
  | error fault => cases success
  | ok found =>
      cases success
      exact ⟨found.1, rfl⟩

private theorem natural?_of_version {bytes rest : Bytes} {number : Nat}
    (success : version bytes = .ok (number, rest)) : Der.natural? bytes = some (number, rest) := by
  obtain ⟨⟨_, _⟩, read, success⟩ := bind_eq_ok success
  obtain ⟨_, _, same⟩ := bind_eq_ok success
  cases same
  exact eq_some_of_encoded read

private theorem isEmpty_of_demand {content rest : Bytes} {fault : KeyFault} {done : Unit}
    (ended : demand (content.isEmpty && rest.isEmpty) fault = .ok done) :
    content = [] ∧ rest = [] := by
  have both := Bool.and_eq_true_iff.mp (of_demand ended)
  exact ⟨List.isEmpty_iff.mp both.1, List.isEmpty_iff.mp both.2⟩

private theorem reads_of_components {bytes : Bytes} {key : PrivateKey}
    (success : components bytes = .ok (key, [])) : Reads bytes (List.replicate 8 .other) := by
  obtain ⟨⟨_, _⟩, modulus, success⟩ := bind_eq_ok success
  obtain ⟨⟨_, _⟩, publicExponent, success⟩ := bind_eq_ok success
  obtain ⟨⟨_, _⟩, privateExponent, success⟩ := bind_eq_ok success
  obtain ⟨⟨_, _⟩, primeP, success⟩ := bind_eq_ok success
  obtain ⟨⟨_, _⟩, primeQ, success⟩ := bind_eq_ok success
  obtain ⟨⟨_, _⟩, exponentP, success⟩ := bind_eq_ok success
  obtain ⟨⟨_, _⟩, exponentQ, success⟩ := bind_eq_ok success
  obtain ⟨⟨_, _⟩, coefficient, success⟩ := bind_eq_ok success
  cases success
  exact .natural (eq_some_of_encoded modulus) <| .natural (eq_some_of_encoded publicExponent) <|
    .natural (eq_some_of_encoded privateExponent) <| .natural (eq_some_of_encoded primeP) <|
    .natural (eq_some_of_encoded primeQ) <| .natural (eq_some_of_encoded exponentP) <|
    .natural (eq_some_of_encoded exponentQ) <| .lastNatural (eq_some_of_encoded coefficient)

theorem reads_of_ofNumbers {octets : Bytes} {key : PrivateKey}
    (success : ofNumbers octets = .ok key) :
    Reads octets [.sequence (List.replicate 9 .other)] := by
  obtain ⟨⟨_, _⟩, outer, success⟩ := bind_eq_ok success
  obtain ⟨⟨_, _⟩, number, success⟩ := bind_eq_ok success
  obtain ⟨_, _, success⟩ := bind_eq_ok success
  obtain ⟨⟨_, _⟩, numbers, success⟩ := bind_eq_ok success
  obtain ⟨_, _, success⟩ := bind_eq_ok success
  obtain ⟨_, ended, _⟩ := bind_eq_ok success
  obtain ⟨rfl, rfl⟩ := isEmpty_of_demand ended
  exact .last (Der.element?_of_expect? (eq_some_of_encoded outer))
    (.sequence (.natural (natural?_of_version number) (reads_of_components numbers)))

theorem reads_algorithmIdentifier :
    Reads algorithmIdentifier [.identifier [1, 2, 840, 113549, 1, 1, 1], .other] := by
  intro budget enough
  have length : algorithmIdentifier.length = 13 := rfl
  obtain ⟨budget, rfl⟩ : ∃ smaller, budget = smaller + 3 := ⟨budget - 3, by omega⟩
  rfl

theorem reads_of_openEnvelope {wrapped octets : Bytes} (success : openEnvelope wrapped = .ok octets) :
    ∃ attributes, Reads wrapped [.sequence (.other ::
      .sequence [.identifier [1, 2, 840, 113549, 1, 1, 1], .other] :: .octets octets ::
        attributes)] := by
  obtain ⟨⟨_, _⟩, outer, success⟩ := bind_eq_ok success
  obtain ⟨⟨_, _⟩, number, success⟩ := bind_eq_ok success
  obtain ⟨_, _, success⟩ := bind_eq_ok success
  obtain ⟨⟨algorithm, _⟩, named, success⟩ := bind_eq_ok success
  obtain ⟨_, wanted, success⟩ := bind_eq_ok success
  obtain ⟨_, _, success⟩ := bind_eq_ok success
  obtain ⟨⟨_, remaining⟩, held, success⟩ := bind_eq_ok success
  dsimp only at success
  have outer := Der.element?_of_expect? (eq_some_of_encoded outer)
  have named := Der.element?_of_expect? (eq_some_of_encoded named)
  rw [eq_of_beq (of_demand wanted)] at named
  have held := Der.element?_of_expect? (eq_some_of_encoded held)
  have number := natural?_of_version number
  split at success
  · obtain ⟨_, attributed, success⟩ := bind_eq_ok success
    obtain ⟨_, ended, same⟩ := bind_eq_ok success
    cases same
    obtain ⟨rfl, rfl⟩ := isEmpty_of_demand ended
    obtain ⟨content, attributes⟩ := exists_of_map_snd attributed
    have attributes := Der.element?_of_expect? (eq_some_of_encoded attributes)
    have inner := Reads.natural number (.cons named (.sequence reads_algorithmIdentifier)
      (.cons held .octets (.last attributes (.foreign (by decide)))))
    exact ⟨[.other], .last outer (.sequence inner)⟩
  · obtain ⟨_, unchanged, success⟩ := bind_eq_ok success
    obtain ⟨_, ended, same⟩ := bind_eq_ok success
    cases unchanged
    cases same
    obtain ⟨rfl, rfl⟩ := isEmpty_of_demand ended
    have inner := Reads.natural number (.cons named (.sequence reads_algorithmIdentifier)
      (.last held .octets))
    exact ⟨[], .last outer (.sequence inner)⟩

section Search

variable {text octets wrapped : Bytes}

/-- In a file with the numbers of a key alone, the search for a key finds these numbers. -/
theorem trustedOctets_of_ofNumbers {key : PrivateKey}
    (block : Pem.parse text = .ok ⟨KeyPair.bareLabel, octets⟩)
    (read : ofNumbers octets = .ok key) : trustedOctets text = .ok octets := by
  have labelled : KeyPair.bareLabel = "RSA PRIVATE KEY" := rfl
  simp only [trustedOctets, block, (reads_of_ofNumbers read).parse?_eq]
  rw [if_pos (Or.inr labelled)]

theorem trustedOctets_of_openEnvelope
    (block : Pem.parse text = .ok ⟨KeyPair.envelopeLabel, wrapped⟩)
    (opened : openEnvelope wrapped = .ok octets) : trustedOctets text = .ok octets := by
  obtain ⟨attributes, reads⟩ := reads_of_openEnvelope opened
  have notBare : ¬ (KeyPair.envelopeLabel = "RSA PUBLIC KEY" ∨
      KeyPair.envelopeLabel = "RSA PRIVATE KEY") := by decide
  have labelled : KeyPair.envelopeLabel = "PRIVATE KEY" := rfl
  simp only [trustedOctets, block, reads.parse?_eq]
  rw [if_neg notBare, if_pos (Or.inr (Or.inl labelled))]
  simp [Asn1.firstOf?, Asn1.Node.first?, Asn1.kindOf?, Asn1.octetsOf?]

end Search

namespace PrivateKey

/-- A key in an envelope without attributes. -/
def envelope (key : PrivateKey) : Bytes :=
  Der.sequence [Der.natural 0, Der.element Der.sequenceTag algorithmIdentifier,
    Der.element Der.octetStringTag key.encode]

theorem openEnvelope_envelope {key : PrivateKey} (checked : key.check = .ok ()) :
    openEnvelope key.envelope = .ok key.encode := by
  have size := length_encode checked
  have plain : Der.sequenceTag.toNat % 32 ≠ 31 ∧ Der.octetStringTag.toNat % 32 ≠ 31 := by decide
  have heldSize := Der.length_element Der.octetStringTag key.encode (by omega)
  have elements : [Der.natural 0, Der.element Der.sequenceTag algorithmIdentifier,
      Der.element Der.octetStringTag key.encode].flatten =
      Der.natural 0 ++ (Der.element Der.sequenceTag algorithmIdentifier ++
        (Der.element Der.octetStringTag key.encode ++ [])) := rfl
  have content : (Der.natural 0 ++ (Der.element Der.sequenceTag algorithmIdentifier ++
      (Der.element Der.octetStringTag key.encode ++ []))).length < 2 ^ 16 := by
    have zero : (Der.natural 0).length = 3 := by decide
    have named : (Der.element Der.sequenceTag algorithmIdentifier).length = 15 := by decide
    rw [List.length_append, List.length_append, List.append_nil]
    omega
  have outer := Der.expect?_element plain.1 content []
  rw [List.append_nil] at outer
  have number : ∀ rest, version (Der.natural 0 ++ rest) = .ok (0, rest) := by
    intro rest
    rw [version, Der.natural?_natural (by decide)]
    rfl
  have named := Der.expect?_element plain.1 (by decide : algorithmIdentifier.length < 2 ^ 16)
    (Der.element Der.octetStringTag key.encode ++ [])
  have held := Der.expect?_element plain.2 (by omega : key.encode.length < 2 ^ 16) []
  have wanted : demand (algorithmIdentifier == algorithmIdentifier) .wrongAlgorithm = .ok () := rfl
  have first : demand (decide (0 ≤ 1)) .versionNotSupported = .ok () ∧
      demand (0 == 0) .versionNotSupported = .ok () := ⟨rfl, rfl⟩
  rw [openEnvelope, envelope, Der.sequence, elements, outer]
  simp only [encoded, number, named, held, wanted, first, bind, Except.bind]
  rfl

end PrivateKey

end Turnstile.Rsa
