import Turnstile.Access.Error
import Turnstile.Policy.Engine
set_option autoImplicit false

/-! Access control. A credential is accepted if it validates and the authentication
policy accepts it too, each at its own reading of the clock; its claims then pass
the authorization policy or not, one rule at a time. -/

namespace Turnstile

structure AccessControl where
  validator : Validator
  engine : Policy.Engine

namespace AccessControl

def keys (access : AccessControl) : KeyStore := access.validator.keys

/-- Ask the authentication policy about a credential that validates. -/
def judge (access : AccessControl) (context : Policy.Context) (now : Instant) (token : String)
    (claims : Claims) : Except AccessError Claims :=
  match Credential.kid token with
  | .error error => .error (.unauthenticated error)
  | .ok kid =>
      match access.keys.get? kid with
      | none => .error (.unauthenticated (.unknownKey kid))
      | some pair =>
          match access.engine.evaluateAuthentication context now pair.publicPem token
              claims.issuer with
          | .error error => .error (.ofPolicy error)
          | .ok false => .error .denied
          | .ok true => .ok claims

/-- The claims of a credential that is accepted. The clock is read to validate the credential and
once more for the policy. -/
def authenticateAt (access : AccessControl) (context : Policy.Context)
    (validatedAt judgedAt : Instant) (token : String) : Except AccessError Claims :=
  match access.validator.validate (Int64.ofInt validatedAt.seconds) token with
  | .error error => .error (.unauthenticated error)
  | .ok claims => access.judge context judgedAt token claims

/-- What comes of a credential while the clock stands. -/
def authenticate (access : AccessControl) (context : Policy.Context) (now : Instant)
    (token : String) : Except AccessError Claims :=
  access.authenticateAt context now now token

def authorize (access : AccessControl) (context : Policy.Context) (claims : Claims)
    (rule : AccessRule) : Except AccessError Unit :=
  match access.engine.evaluateAuthorization context rule claims.roles claims.subject with
  | .error error => .error (.ofPolicy error)
  | .ok false => .error (.forbidden rule)
  | .ok true => .ok ()

end AccessControl

end Turnstile
