import Turnstile.Asn1
import Turnstile.Pem
import Turnstile.Rsa.Basic
set_option autoImplicit false

/-! The public key inside a text that a policy trusts: a bare key, an envelope
around one, or a certificate. -/

namespace Turnstile.Rsa

inductive TrustFault where
  /-- The text is no block with a key of this kind. -/
  | keyFormat
  /-- The block names the algorithm but holds no octets of a key. -/
  | keyMissing
  deriving DecidableEq, Repr

namespace TrustFault

def message : TrustFault → String
  | keyFormat => "InvalidKeyFormat"
  | keyMissing => "InvalidEcdsaKey"

end TrustFault

/-- The octets of the key to verify with, out of a key file, an envelope or a
certificate. Whether they are the numbers of a key shows when they are used. -/
def trustedOctets (text : Bytes) : Except TrustFault Bytes :=
  match Pem.parse text with
  | .error _ => .error .keyFormat
  | .ok block =>
      match Asn1.parse? block.contents with
      | none => .error .keyFormat
      | some nodes =>
          if block.label = "RSA PUBLIC KEY" ∨ block.label = "RSA PRIVATE KEY" then
            .ok block.contents
          else if block.label = "PUBLIC KEY" ∨ block.label = "PRIVATE KEY" ∨
              block.label = "CERTIFICATE" then
            match Asn1.firstOf? Asn1.kindOf? nodes with
            | some .rsa =>
                match Asn1.firstOf? Asn1.octetsOf? nodes with
                | some octets => .ok octets
                | none => .error .keyMissing
            | _ => .error .keyFormat
          else .error .keyFormat

end Turnstile.Rsa
