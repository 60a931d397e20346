import Turnstile.Claims.Wire
import Turnstile.Jws.Verify
import Turnstile.KeyStore
set_option autoImplicit false

/-! Validation of a presented credential. The checks run in a fixed order, and the
first that fails gives the error: form, algorithm, key, signature, payload, time,
audience. -/

namespace Turnstile

inductive CredentialError where
  /-- Not three parts, or no readable header or payload. -/
  | malformed
  /-- The algorithm is not allowed, or the signature does not verify. -/
  | signature
  /-- The header names a key that is not loaded. -/
  | unknownKey (kid : String)
  | notLive
  | audience
  deriving DecidableEq, Repr

namespace CredentialError

def message : CredentialError → String
  | malformed => "token is malformed"
  | signature => "token signature is invalid"
  | unknownKey kid => "signing key " ++ Text.quoted kid ++ " is unknown"
  | notLive => "token is expired or not yet valid"
  | audience => "token audience is invalid"

end CredentialError

def Credential.algorithm : Jws.Algorithm := .rs256

def Credential.parse (token : String) : Except CredentialError (Jws.Compact × Jws.KeyHint) :=
  match Jws.Compact.ofText? token with
  | none => .error .malformed
  | some compact =>
      if !compact.isComplete then .error .malformed
      else match (compact.headerOctets?.bind Json.Tree.parse?).bind Jws.KeyHint.ofTree? with
        | some hint => .ok (compact, hint)
        | none => .error .malformed

def Credential.kid (token : String) : Except CredentialError String :=
  (Credential.parse token).map fun (_, hint) => hint.kid

structure Validator where
  keys : KeyStore
  /-- Seconds by which the window of validity is widened at both ends. -/
  leeway : Int64
  /-- The audience that a credential must name, if any. -/
  audience : Option String

namespace Validator

def openClaims (key : Rsa.PublicKey) (compact : Jws.Compact) : Except CredentialError Claims :=
  match Jws.openWith Claims.ofTree? Credential.algorithm (some key) compact with
  | .ok claims => .ok claims
  | .error .json => .error .malformed
  | .error .other => .error .signature

def acceptsAudience (validator : Validator) (claims : Claims) : Bool :=
  match validator.audience with
  | some audience => claims.audience == some audience
  | none => true

def validate (validator : Validator) (now : Int64) (token : String) :
    Except CredentialError Claims :=
  match Credential.parse token with
  | .error error => .error error
  | .ok (compact, hint) =>
      if hint.algorithm ≠ Credential.algorithm.name then .error .signature
      else match validator.keys.get? hint.kid with
        | none => .error (.unknownKey hint.kid)
        | some pair =>
            match openClaims pair.publicKey compact with
            | .error error => .error error
            | .ok claims =>
                if !claims.isLiveAt now validator.leeway then .error .notLive
                else if !validator.acceptsAudience claims then .error .audience
                else .ok claims

end Validator

end Turnstile
