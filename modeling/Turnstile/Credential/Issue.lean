import Turnstile.Credential.Validate
set_option autoImplicit false

/-! Issuing credentials: claims are built, encoded and signed with a loaded key. -/

namespace Turnstile

inductive IssueError where
  | key (error : KeyError)
  /-- The lifetime is not positive or does not end in the calendar. -/
  | lifetime
  | signing (fault : Rsa.SigningFault)
  deriving DecidableEq, Repr

namespace IssueError

def message : IssueError → String
  | key error => error.message
  | lifetime => "credential lifetime must be positive and end in a representable time"
  | signing fault => "signing credential: Signing failed: signature error: " ++ fault.message

end IssueError

structure CredentialRequest where
  kid : String
  subject : String
  issuer : String
  audience : Option String
  roles : List Role
  /-- Nanoseconds that the credential is to hold. -/
  lifetime : Nat
  deriving DecidableEq, Repr

namespace KeyPair

def signClaims (pair : KeyPair) (claims : Claims) : Except Rsa.SigningFault String :=
  let header := Base64.encodeUrl
    (Utf8.encodeChars (Jws.Header.render Credential.algorithm pair.kid))
  let payload := Base64.encodeUrl (Utf8.encodeChars claims.toJson.render)
  let unsigned : Jws.Compact := ⟨header, payload, []⟩
  (Rsa.sign pair.key .sha256 unsigned.signedOctets).map fun signature =>
    { unsigned with signature := Base64.encodeUrl signature }.render

end KeyPair

namespace KeyStore

/-- Sign claims with the key of an identifier. Claims that end no later than they
were issued are refused first. -/
def issueClaims (keys : KeyStore) (kid : String) (claims : Claims) : Except IssueError String :=
  if claims.expires.toInt ≤ claims.issuedAt.toInt then .error .lifetime
  else match keys.get kid with
    | .error error => .error (.key error)
    | .ok pair =>
        match pair.signClaims claims with
        | .ok token => .ok token
        | .error fault => .error (.signing fault)

end KeyStore

namespace CredentialRequest

def claims? (request : CredentialRequest) (now : Instant) (tokenId : String) : Option Claims :=
  if request.lifetime = 0 then none
  else do
    let lifetime ← Duration.ofNanoseconds? request.lifetime
    let claims ← Claims.issue? request.subject request.issuer request.roles now lifetime
    return { claims with tokenId := some tokenId, audience := request.audience }

end CredentialRequest

namespace KeyStore

def issue (keys : KeyStore) (now : Instant) (tokenId : String) (request : CredentialRequest) :
    Except IssueError String :=
  match request.claims? now tokenId with
  | none => .error .lifetime
  | some claims => keys.issueClaims request.kid claims

end KeyStore

end Turnstile
