import Turnstile.Jws.Compact
import Turnstile.Jws.Header
set_option autoImplicit false

/-! Opening a signed token. The payload is looked at only after the signature has
verified under a given key and algorithm. -/

namespace Turnstile.Jws

/-- Why a token is not opened: a part is JSON of the wrong shape, or anything
else. -/
inductive Fault where
  | json
  | other
  deriving DecidableEq, Repr

/-- The payload octets of a token that verifies. The key may be missing, and then
nothing verifies. -/
def verifiedPayload (algorithm : Algorithm) (key : Option Rsa.PublicKey) (compact : Compact) :
    Except Fault Bytes :=
  match compact.headerOctets? with
  | none => .error .other
  | some header =>
      match (Json.Tree.parse? header).bind Header.algorithm? with
      | none => .error .json
      | some named =>
          if named ≠ algorithm then .error .other
          else match algorithm.hash?, key, compact.signatureOctets? with
            | some hash, some key, some signature =>
                if Rsa.verifies key hash compact.signedOctets signature then
                  match compact.payloadOctets? with
                  | some payload => .ok payload
                  | none => .error .other
                else .error .other
            | _, _, _ => .error .other

def registeredKeys : List String := ["exp", "nbf", "sub", "iss", "aud"]

def hasPlainSubject (members : List (String × Json.Tree)) : Bool :=
  members.all fun (key, tree) =>
    key ≠ "sub" || (match tree with
      | .array _ => false
      | .object _ => false
      | _ => true)

def hasReadableClaims : Json.Tree → Bool
  | .object members =>
      (Json.Tree.namedMembers? members).any fun members =>
        Json.Tree.eachAtMostOnce registeredKeys members && hasPlainSubject members
  | _ => false

def openWith {Payload : Type} (read : Json.Tree → Option Payload) (algorithm : Algorithm)
    (key : Option Rsa.PublicKey) (compact : Compact) : Except Fault Payload :=
  match verifiedPayload algorithm key compact with
  | .error fault => .error fault
  | .ok octets =>
      match Json.Tree.parse? octets with
      | none => .error .json
      | some tree =>
          match read tree with
          | none => .error .json
          | some payload => if hasReadableClaims tree then .ok payload else .error .json

end Turnstile.Jws
