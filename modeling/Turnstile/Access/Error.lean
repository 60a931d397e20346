import Turnstile.Counters
import Turnstile.Credential.Validate
import Turnstile.Policy.Decision
import Turnstile.Policy.Rule
set_option autoImplicit false

/-! Why access is not given. Operators see the whole diagnostic. A caller sees a
status, a code and a message that does not tell which check of a credential
failed. -/

namespace Turnstile

inductive AccessError where
  | missingHeader
  | invalidHeader
  | unauthenticated (error : CredentialError)
  | denied
  | forbidden (rule : AccessRule)
  | policy (error : Policy.Error)
  /-- The caller has given up before a decision. -/
  | cancelled
  deriving DecidableEq, Repr

namespace AccessError

def ofPolicy : Policy.Error → AccessError
  | .cancelled => cancelled
  | .deadlineExceeded => cancelled
  | error => policy error

def message : AccessError → String
  | missingHeader => "authorization header is required"
  | invalidHeader => "invalid authorization header format (expected 'Bearer <token>')"
  | unauthenticated error => "not authenticated: " ++ error.message
  | denied => "not authenticated: rejected by authentication policy"
  | forbidden rule => "not authorized for rule " ++ rule.name
  | policy error => "policy evaluation failed: " ++ error.message
  | cancelled => "request cancelled before a decision was reached"

def code : AccessError → String
  | missingHeader => "missing_auth_header"
  | invalidHeader => "invalid_auth_header"
  | unauthenticated _ | denied => "unauthenticated"
  | forbidden _ => "forbidden"
  | policy _ => "internal_error"
  | cancelled => "cancelled"

def status : AccessError → Nat
  | missingHeader | invalidHeader | unauthenticated _ | denied => 401
  | forbidden _ => 403
  | policy _ => 500
  | cancelled => 503

def isAuthenticationFailure (error : AccessError) : Bool := error.status == 401

def publicMessage : AccessError → String
  | unauthenticated _ | denied => "not authenticated"
  | forbidden _ => "not authorized"
  | policy _ => "internal error"
  | error => error.message

def body (error : AccessError) : Json :=
  .object [("error", .string error.publicMessage), ("error_code", .string error.code)]

def outcome : AccessError → Outcome
  | unauthenticated _ | denied | forbidden _ => .denied
  | _ => .failed

end AccessError

def Outcome.ofResult {Result : Type} : Except AccessError Result → Outcome
  | .ok _ => .allowed
  | .error error => error.outcome

end Turnstile
