import Turnstile.Pem
import Turnstile.Rsa.Basic
set_option autoImplicit false

/-! Private keys as they are kept in files: the numbers of the key in sequence,
alone or inside an envelope that names the algorithm. A key is accepted only
when its numbers are well formed, large enough and consistent; the first check
that fails names the fault. -/

namespace Turnstile.Rsa

inductive KeyFault where
  | invalidEncoding
  | versionNotSupported
  | wrongAlgorithm
  | invalidComponent
  | inconsistentComponents
  | tooSmall
  | tooLarge
  | unsupportedPrimeSize
  | unworkable
  deriving DecidableEq, Repr

namespace KeyFault

def message : KeyFault → String
  | invalidEncoding => "InvalidEncoding"
  | versionNotSupported => "VersionNotSupported"
  | wrongAlgorithm => "WrongAlgorithm"
  | invalidComponent => "InvalidComponent"
  | inconsistentComponents => "InconsistentComponents"
  | tooSmall => "TooSmall"
  | tooLarge => "TooLarge"
  | unsupportedPrimeSize => "PrivateModulusLenNotMultipleOf512Bits"
  | unworkable => "UnexpectedError"

end KeyFault

def demand (condition : Bool) (fault : KeyFault) : Except KeyFault Unit :=
  if condition then .ok () else .error fault

/-- An odd number of 4 to 128 machine words of eight octets. -/
def checkModulus (value : Nat) : Except KeyFault Unit := do
  let words := (max (Bytes.octetSize value) 1 + 7) / 8
  demand (4 ≤ words) .unworkable
  demand (words ≤ 128) .tooLarge
  demand (value % 2 == 1) .invalidComponent

def checkPublicExponent (value : Nat) : Except KeyFault Unit := do
  demand (Bytes.octetSize value ≤ 5) .tooLarge
  demand (value != 0) .invalidEncoding
  demand (65537 ≤ value) .tooSmall
  demand (value ≤ PublicKey.largestExponent) .tooLarge
  demand (value % 2 == 1) .invalidComponent

def checkPrime (bits value : Nat) : Except KeyFault Unit := do
  checkModulus value
  demand (Bytes.bitSize value == bits) .inconsistentComponents
  demand (bits % 512 == 0) .unsupportedPrimeSize

def PrivateKey.check (key : PrivateKey) : Except KeyFault Unit := do
  checkModulus key.modulus
  demand (256 ≤ Bytes.octetSize key.modulus) .tooSmall
  demand (Bytes.bitSize key.modulus ≤ 4096) .tooLarge
  checkPublicExponent key.publicExponent
  let half := (Bytes.bitSize key.modulus + 1) / 2
  checkPrime half key.primeP
  checkPrime half key.primeQ
  demand (key.primeP * key.primeQ % key.modulus == 0) .inconsistentComponents
  demand (checkModulus key.privateExponent matches .ok ()) .invalidComponent
  demand (half < Bytes.bitSize key.privateExponent && key.privateExponent < key.modulus)
    .inconsistentComponents
  demand (key.coefficient < key.primeP) .invalidComponent
  demand (key.coefficient * key.primeQ % key.primeP == 1) .inconsistentComponents
  demand (key.exponentP < key.primeP && key.exponentP % 2 == 1) .inconsistentComponents
  demand (key.exponentQ < key.primeQ && key.exponentQ % 2 == 1) .inconsistentComponents

def encoded {Value : Type} : Option Value → Except KeyFault Value
  | some value => .ok value
  | none => .error .invalidEncoding

def version (bytes : Bytes) : Except KeyFault (Nat × Bytes) := do
  let (value, rest) ← encoded (Der.natural? bytes)
  demand (value ≤ 255) .invalidEncoding
  return (value, rest)

def components (bytes : Bytes) : Except KeyFault (PrivateKey × Bytes) := do
  let (modulus, bytes) ← encoded (Der.natural? bytes)
  let (publicExponent, bytes) ← encoded (Der.natural? bytes)
  let (privateExponent, bytes) ← encoded (Der.natural? bytes)
  let (primeP, bytes) ← encoded (Der.natural? bytes)
  let (primeQ, bytes) ← encoded (Der.natural? bytes)
  let (exponentP, bytes) ← encoded (Der.natural? bytes)
  let (exponentQ, bytes) ← encoded (Der.natural? bytes)
  let (coefficient, bytes) ← encoded (Der.natural? bytes)
  return (⟨modulus, publicExponent, privateExponent, primeP, primeQ, exponentP, exponentQ,
    coefficient⟩, bytes)

/-- Read a private key: version zero and the eight numbers in sequence. Faults
of the numbers come before octets that are left over. -/
def ofNumbers (bytes : Bytes) : Except KeyFault PrivateKey := do
  let (content, rest) ← encoded (Der.expect? Der.sequenceTag bytes)
  let (number, content) ← version content
  demand (number == 0) .versionNotSupported
  let (key, content) ← components content
  key.check
  demand (content.isEmpty && rest.isEmpty) .invalidEncoding
  return key

def algorithmIdentifier : Bytes :=
  Der.element Der.objectIdentifierTag [0x2a, 0x86, 0x48, 0x86, 0xf7, 0x0d, 0x01, 0x01, 0x01] ++
    Der.element Der.nullTag []

def attributesTag : UInt8 := 0xa0

/-- The octets of the key in an envelope: version, algorithm, the key as an
octet string, and attributes of any content. -/
def openEnvelope (bytes : Bytes) : Except KeyFault Bytes := do
  let (content, rest) ← encoded (Der.expect? Der.sequenceTag bytes)
  let (number, content) ← version content
  demand (number ≤ 1) .versionNotSupported
  let (algorithm, content) ← encoded (Der.expect? Der.sequenceTag content)
  demand (algorithm == algorithmIdentifier) .wrongAlgorithm
  demand (number == 0) .versionNotSupported
  let (key, content) ← encoded (Der.expect? Der.octetStringTag content)
  let content ← if content.head? == some attributesTag then
      (encoded (Der.expect? attributesTag content)).map Prod.snd
    else pure content
  demand (content.isEmpty && rest.isEmpty) .invalidEncoding
  return key

def ofEnvelope (bytes : Bytes) : Except KeyFault PrivateKey := do
  ofNumbers (← openEnvelope bytes)

/-- What goes on after a step has gone on after this step. -/
theorem bind_eq_ok {Failure First Second : Type} {step : Except Failure First}
    {next : First → Except Failure Second} {result : Second}
    (success : (step >>= next) = .ok result) :
    ∃ value, step = .ok value ∧ next value = .ok result := by
  cases step with
  | error fault => cases success
  | ok value => exact ⟨value, rfl, success⟩

theorem check_of_ofNumbers {bytes : Bytes} {key : PrivateKey}
    (read : ofNumbers bytes = .ok key) : key.check = .ok () := by
  unfold ofNumbers at read
  obtain ⟨⟨content, rest⟩, _, read⟩ := bind_eq_ok read
  obtain ⟨⟨number, content⟩, _, read⟩ := bind_eq_ok read
  obtain ⟨_, _, read⟩ := bind_eq_ok read
  obtain ⟨⟨found, content⟩, _, read⟩ := bind_eq_ok read
  obtain ⟨⟨⟩, checked, read⟩ := bind_eq_ok read
  obtain ⟨_, _, same⟩ := bind_eq_ok read
  cases same
  exact checked

theorem check_of_ofEnvelope {bytes : Bytes} {key : PrivateKey}
    (read : ofEnvelope bytes = .ok key) : key.check = .ok () := by
  obtain ⟨numbers, _, read⟩ := bind_eq_ok read
  exact check_of_ofNumbers read

end Turnstile.Rsa
