import Turnstile.Jws.Verify
import Turnstile.Policy.Value
import Turnstile.Rsa.Trusted
set_option autoImplicit false

/-! The token check that policies call. Constraints that make no sense are errors; a
token that does not satisfy them is no error but a verdict that reveals nothing
of the token. -/

namespace Turnstile.Policy

/-- What is wrong with a call of the token check, apart from the token. -/
inductive ConstraintFault where
  | tokenNotString
  | notObject
  | notString (key : String)
  | timeNotNumber
  | unknown (key : String)
  | certMissing
  | cert (fault : Rsa.TrustFault)
  deriving DecidableEq, Repr

namespace ConstraintFault

def message (fault : ConstraintFault) : String :=
  "io.jwt.decode_verify: " ++ match fault with
    | tokenNotString => "token must be a string"
    | notObject => "constraints must be an object"
    | notString key => key ++ " must be a string"
    | timeNotNumber => "time must be a number"
    | unknown key => "unknown constraint " ++ Text.quoted key
    | certMissing => "cert constraint is required"
    | cert fault => "invalid cert: " ++ fault.message

end ConstraintFault

structure Constraints where
  cert : String
  issuer : Option String
  audience : Option String
  /-- Nanoseconds since the start of 1970. -/
  time : Option Binary64
  deriving DecidableEq, Repr

namespace Constraints

def none : Constraints := ⟨"", .none, .none, .none⟩

def add (constraints : Constraints) (key : String) (value : Json) :
    Except ConstraintFault Constraints :=
  if key = "cert" then
    match value.string? with
    | some cert => .ok { constraints with cert := cert }
    | .none => .error (.notString key)
  else if key = "iss" then
    match value.string? with
    | some issuer => .ok { constraints with issuer := some issuer }
    | .none => .error (.notString key)
  else if key = "aud" then
    match value.string? with
    | some audience => .ok { constraints with audience := some audience }
    | .none => .error (.notString key)
  else if key = "time" then
    match value.binary64? with
    | some time => .ok { constraints with time := some time }
    | .none => .error .timeNotNumber
  else .error (.unknown key)

def addAll : Constraints → List (String × Json) → Except ConstraintFault Constraints
  | constraints, [] => .ok constraints
  | constraints, (key, value) :: rest => do
      let constraints ← constraints.add key value
      addAll constraints rest

def ofJson (value : Json) : Except ConstraintFault Constraints :=
  match value.object? with
  | .none => .error .notObject
  | some members => do
      let constraints ← none.addAll members
      if constraints.cert = "" then throw .certMissing
      return constraints

end Constraints

/-- The verdict of a token check: the header and the payload of a token that
passes. -/
abbrev Verdict := Option (List (String × Json) × List (String × Json))

namespace Verdict

def toJson : Verdict → Json
  | some (header, payload) => .array [.bool true, .object header, .object payload]
  | none => .array [.bool false, .object [], .object []]

end Verdict

def objectOctets? (octets : Bytes) : Option (List (String × Json)) :=
  (Json.parse? octets).bind Json.object?

def objectOfTree? (tree : Json.Tree) : Option (List (String × Json)) :=
  (tree.build? Json.depthLimit).bind Json.object?

def acceptedAlgorithm? (header : List (String × Json)) : Option Jws.Algorithm :=
  match (Json.lookup? "alg" header).bind Json.string? with
  | some "RS256" => some .rs256
  | some "RS384" => some .rs384
  | some "RS512" => some .rs512
  | _ => none

def signedParts? (key : Option Rsa.PublicKey) (token : String) :
    Option (List (String × Json) × List (String × Json)) := do
  let compact ← Jws.Compact.ofText? token
  let header ← compact.headerOctets?.bind objectOctets?
  let algorithm ← acceptedAlgorithm? header
  match Jws.openWith objectOfTree? algorithm key compact with
  | .ok payload => return (header, payload)
  | .error _ => none

def nanosPerSecond : Binary64 := Binary64.ofInt 1000000000

/-- Seconds out of nanoseconds. -/
def secondsOf (nanos : Binary64) : Binary64 := (nanos.div? nanosPerSecond).getD nanos

def respects (bound : Option Json) (holds : Binary64 → Bool) : Bool :=
  match bound with
  | some value => value.binary64?.any holds
  | none => true

def issuerMatches (wanted : Option String) (payload : List (String × Json)) : Bool :=
  match wanted with
  | some issuer => (Json.lookup? "iss" payload).bind Json.string? == some issuer
  | none => true

/-- Whether the payload names the audience that is asked for, alone or in a list. -/
def audienceMatches (wanted : Option String) (payload : List (String × Json)) : Bool :=
  match wanted with
  | some audience =>
      match Json.lookup? "aud" payload with
      | some (.string found) => found == audience
      | some (.array items) => items.any fun item => item.string? == some audience
      | _ => false
  | none => true

def satisfies (constraints : Constraints) (now : Binary64) (payload : List (String × Json)) :
    Bool :=
  respects (Json.lookup? "exp" payload) (fun bound => now.le bound) &&
    respects (Json.lookup? "nbf" payload) (fun bound => bound.le now) &&
    issuerMatches constraints.issuer payload && audienceMatches constraints.audience payload

/-- Check a token. Without a time among the constraints the check is for the second
`now`. -/
def decodeVerify (now : Int) (token : String) (constraints : Json) :
    Except ConstraintFault Verdict := do
  let constraints ← Constraints.ofJson constraints
  let octets ← match Rsa.trustedOctets (Utf8.encode constraints.cert) with
    | .ok octets => pure octets
    | .error fault => throw (.cert fault)
  let seconds := match constraints.time with
    | some nanos => secondsOf nanos
    | none => Binary64.ofInt now
  match signedParts? (Rsa.PublicKey.decode? octets) token with
  | some (header, payload) =>
      if satisfies constraints seconds payload then return some (header, payload)
      else return none
  | none => return none

end Turnstile.Policy
