import Turnstile.Instant
import Turnstile.Policy.Embedded
import Turnstile.Policy.Rule
import Turnstile.Role
set_option autoImplicit false

/-! The policies that a service runs: one query that judges credentials and one for
each access rule. Every query is prepared when the engine is built, so a missing
rule shows then and not in a request. -/

namespace Turnstile.Policy

structure Engine where
  authentication : PreparedQuery
  authorization : AccessRule → PreparedQuery

namespace Engine

def authenticationRule : String := "auth"

def ofModules (wallSeconds : Int) (authentication authorization : NamedModule) :
    Except Error Engine := do
  let prepareRule := fun (rule : AccessRule) =>
    PreparedQuery.prepare wallSeconds authorization rule.policyRule
  let judge ← PreparedQuery.prepare wallSeconds authentication authenticationRule
  let any ← prepareRule .any
  let adminOnly ← prepareRule .adminOnly
  let userOnly ← prepareRule .userOnly
  let adminOrSubject ← prepareRule .adminOrSubject
  return {
    authentication := judge
    authorization := fun
      | .any => any
      | .adminOnly => adminOnly
      | .userOnly => userOnly
      | .adminOrSubject => adminOrSubject }

def moduleOf (embedded : NamedModule) : Option String → Except Error NamedModule
  | some source => NamedModule.parse embedded.name source
  | none => .ok embedded

def ofSources (wallSeconds : Int) (authentication authorization : Option String) :
    Except Error Engine := do
  let authentication ← moduleOf Embedded.authentication authentication
  let authorization ← moduleOf Embedded.authorization authorization
  ofModules wallSeconds authentication authorization

def embedded : Engine where
  authentication := .ofRule Embedded.authentication authenticationRule
  authorization := fun rule => .ofRule Embedded.authorization rule.policyRule

/-- What the authentication policy is told: a key, a credential, its issuer and the
time. -/
def authenticationInput (publicPem token issuer : String) (now : Instant) : Input :=
  [("ISS", .string issuer), ("Key", .string publicPem),
    ("Time", .number (.int now.unixNanos)), ("Token", .string token)]

/-- What the authorization policy is told: the roles of a subject that acts on
itself. -/
def authorizationInput (roles : List Role) (subject : String) : Input :=
  [("Roles", .array (roles.map fun role => .string role.name)), ("Subject", .string subject),
    ("UserID", .string subject)]

def evaluateAuthentication (engine : Engine) (context : Context) (now : Instant)
    (publicPem token issuer : String) : Except Error Bool :=
  engine.authentication.decide (authenticationInput publicPem token issuer now) context

def evaluateAuthorization (engine : Engine) (context : Context) (rule : AccessRule)
    (roles : List Role) (subject : String) : Except Error Bool :=
  (engine.authorization rule).decide (authorizationInput roles subject) context

end Engine

end Turnstile.Policy
