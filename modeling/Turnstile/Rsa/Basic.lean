import Turnstile.Der
import Turnstile.Sha2
set_option autoImplicit false

/-! RSA keys as numbers, and signatures over them. A signature is the padded
digest of a message raised to the private exponent; it verifies when the public
exponent brings the padded digest back. -/

namespace Turnstile.Rsa

def binaryDigits : (places : Nat) → Nat → List Bool
  | 0, _ => []
  | places + 1, value => (value % 2 == 1) :: binaryDigits places (value / 2)

/-- `result` times the power of `base` whose exponent has the given binary
digits, modulo a number. -/
def powerOfDigits (modulus : Nat) : (digits : List Bool) → (base result : Nat) → Nat
  | [], _, result => result % modulus
  | digit :: digits, base, result =>
      powerOfDigits modulus digits (base * base % modulus)
        (if digit then result * base % modulus else result)

def power (modulus base exponent : Nat) : Nat :=
  powerOfDigits modulus (binaryDigits (Bytes.bitSize exponent) exponent) base 1

structure PublicKey where
  modulus : Nat
  exponent : Nat
  deriving DecidableEq, Repr

structure PrivateKey where
  modulus : Nat
  publicExponent : Nat
  privateExponent : Nat
  primeP : Nat
  primeQ : Nat
  exponentP : Nat
  exponentQ : Nat
  coefficient : Nat
  deriving DecidableEq, Repr

namespace PrivateKey

def toPublic (key : PrivateKey) : PublicKey := ⟨key.modulus, key.publicExponent⟩

end PrivateKey

namespace PublicKey

def encode (key : PublicKey) : Bytes :=
  Der.sequence [Der.natural key.modulus, Der.natural key.exponent]

def decode? (bytes : Bytes) : Option PublicKey := do
  let (content, rest) ← Der.expect? Der.sequenceTag bytes
  let (modulus, content) ← Der.natural? content
  let (exponent, content) ← Der.natural? content
  if content.isEmpty ∧ rest.isEmpty then return ⟨modulus, exponent⟩ else none

def largestExponent : Nat := 0x1ffffffff

/-- A key that signatures are verified with: at most 4096 bits, and an odd
exponent that is small beside the modulus. -/
def usable (key : PublicKey) : Bool :=
  key.modulus % 2 == 1 && Bytes.bitSize key.modulus ≤ 4096 && key.exponent % 2 == 1 &&
    2 ≤ key.exponent && key.exponent ≤ largestExponent && key.exponent < key.modulus

end PublicKey

inductive Hash where
  | sha256
  | sha384
  | sha512
  deriving DecidableEq, Repr

namespace Hash

def digest : Hash → Bytes → Bytes
  | sha256 => Sha2.digest Sha2.sha256
  | sha384 => Sha2.digest Sha2.sha384
  | sha512 => Sha2.digest Sha2.sha512

def identifier : Hash → UInt8
  | sha256 => 1
  | sha384 => 2
  | sha512 => 3

def digestInfo (hash : Hash) (message : Bytes) : Bytes :=
  Der.sequence [
    Der.sequence [
      Der.element Der.objectIdentifierTag
        [0x60, 0x86, 0x48, 0x01, 0x65, 0x03, 0x04, 0x02, hash.identifier],
      Der.element Der.nullTag []],
    Der.element Der.octetStringTag (hash.digest message)]

end Hash

/-- The number that is signed: the digest information behind a run of one bits,
as long as the modulus. A modulus with no room for eight octets of padding has
none. -/
def paddedDigest? (hash : Hash) (message : Bytes) (size : Nat) : Option Nat :=
  let info := hash.digestInfo message
  if info.length + 11 ≤ size then
    some (Bytes.toNat ([0, 1] ++ List.replicate (size - info.length - 3) 0xff ++ [0] ++ info))
  else none

def verifies (key : PublicKey) (hash : Hash) (message signature : Bytes) : Bool :=
  let size := Bytes.octetSize key.modulus
  key.usable && signature.length == size && Bytes.toNat signature < key.modulus &&
    paddedDigest? hash message size ==
      some (power key.modulus (Bytes.toNat signature) key.exponent)

inductive SigningFault where
  /-- The numbers of the key do not belong together. -/
  | malformedKey
  /-- The signature made does not verify, or there is no room for it. -/
  | internal
  deriving DecidableEq, Repr

namespace SigningFault

def message : SigningFault → String
  | malformedKey => "PKCS#8 cryptographic key data malformed"
  | internal => "internal error"

end SigningFault

/-- Whether the private exponent undoes the public one modulo both primes, and
the primes make up the modulus. -/
def PrivateKey.coherent (key : PrivateKey) : Bool :=
  key.primeP * key.primeQ == key.modulus && 1 < key.primeP && 1 < key.primeQ &&
    key.privateExponent * key.publicExponent % (key.primeP - 1) == 1 % (key.primeP - 1) &&
    key.privateExponent * key.publicExponent % (key.primeQ - 1) == 1 % (key.primeQ - 1)

/-- Sign a message. The signature is checked before it is given out. It is made with the
private exponent itself, which comes to the same as making it modulo each prime as long as
the primes are prime; for numbers in their place that are not, the two can differ. -/
def sign (key : PrivateKey) (hash : Hash) (message : Bytes) : Except SigningFault Bytes :=
  if !key.coherent then .error .malformedKey
  else
    let size := Bytes.octetSize key.modulus
    match paddedDigest? hash message size with
    | none => .error .internal
    | some padded =>
        let signature := power key.modulus padded key.privateExponent
        if power key.modulus signature key.publicExponent = padded then
          .ok (Bytes.ofNat size signature)
        else .error .internal

end Turnstile.Rsa
