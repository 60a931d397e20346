import Turnstile.Proofs.Policy.Authentication
import Turnstile.Proofs.Policy.Authorization
set_option autoImplicit false

/-! The engine that a service starts with when no sources are given. Both embedded policies
stand their trial at every second. Nothing is allowed for a caller that has given up when an
evaluation begins or when it ends. -/

namespace Turnstile.Policy

/-- The caller has not given up, neither before an evaluation nor after it. -/
def Context.Live (context : Context) : Prop := context.before = .live ∧ context.after = .live

theorem Standing.check_eq_ok_iff (standing : Standing) :
    standing.check = .ok () ↔ standing = .live := by
  cases standing with
  | live => simp [check]
  | cancelled => simp [check]
  | expired => simp [check]

namespace Embedded

theorem queryRows_authentication_empty (wallSeconds : Int) :
    authentication.queryRows (authentication.queryText Engine.authenticationRule) wallSeconds
        Input.empty =
      .ok [[(resultBinding, .bool false)]] := by
  rw [queryRows_of_path authenticationModule (.object []) wallSeconds rfl
    scanned_authentication names_authentication rfl]
  rfl

theorem queryRows_authorization_empty (wallSeconds : Int) (rule : AccessRule) :
    authorization.queryRows (authorization.queryText rule.policyRule) wallSeconds Input.empty =
      .ok [[(resultBinding, .bool false)]] := by
  rw [queryRows_of_path authorizationModule (.object []) wallSeconds rfl
    (scanned_authorization rule) (names_authorization rule) rfl]
  cases rule <;> rfl

end Embedded

namespace PreparedQuery

theorem decide_of_gone (prepared : PreparedQuery) (input : Input) {context : Context}
    {error : Error} (gone : context.before.check = .error error) :
    prepared.decide input context = .error error := by
  simp only [decide, eval, gone]

theorem prepare_eq_ofRule (wallSeconds : Int) {named : NamedModule} {rule : String} {value : Bool}
    (rows : named.queryRows (named.queryText rule) wallSeconds Input.empty =
      .ok [[(resultBinding, .bool value)]]) :
    prepare wallSeconds named rule = .ok (ofRule named rule) := by
  have ran : (ofRule named rule).run wallSeconds Input.empty =
      .ok [[(resultBinding, .bool value)]] := by
    simp only [run, ofRule, rows]
    rfl
  simp only [prepare, ran]
  rfl

end PreparedQuery

theorem Engine.ofSources_none (wallSeconds : Int) :
    Engine.ofSources wallSeconds none none = .ok .embedded := by
  have judge := PreparedQuery.prepare_eq_ofRule wallSeconds
    (Embedded.queryRows_authentication_empty wallSeconds)
  have decider := fun rule => PreparedQuery.prepare_eq_ofRule wallSeconds
    (Embedded.queryRows_authorization_empty wallSeconds rule)
  simp only [ofSources, moduleOf, ofModules, judge, decider, bind, Except.bind, pure, Except.pure,
    embedded]
  refine congrArg (fun decider => Except.ok (Engine.mk _ decider)) ?_
  funext rule
  cases rule <;> rfl

/-- From the sources of the embedded policies a service has the engine that it has without any. -/
theorem Engine.ofSources_embedded (wallSeconds : Int) :
    Engine.ofSources wallSeconds (some (Embedded.textOf Embedded.authenticationLines))
      (some (Embedded.textOf Embedded.authorizationLines)) = .ok .embedded := by
  rw [← ofSources_none wallSeconds]
  simp only [ofSources, moduleOf, Embedded.parse_authenticationLines,
    Embedded.parse_authorizationLines, Embedded.authentication, Embedded.authorization]

/-! ### What is allowed -/

theorem Engine.evaluateAuthentication_eq_true_iff (context : Context) (now : Instant)
    (publicPem token issuer : String) :
    Engine.embedded.evaluateAuthentication context now publicPem token issuer = .ok true ↔
      context.Live ∧
        Embedded.tokenCheck context.wallSeconds now publicPem token issuer = .ok true ∧
        issuer ∈ Embedded.trustedIssuers := by
  rw [evaluateAuthentication_embedded, Context.Live, ← Standing.check_eq_ok_iff,
    ← Standing.check_eq_ok_iff, ← List.contains_iff_mem]
  cases context.before.check with
  | error error => simp
  | ok _ =>
      cases Embedded.tokenCheck context.wallSeconds now publicPem token issuer with
      | error cause => simp
      | ok passes =>
          cases context.after.check with
          | error error => simp
          | ok _ => simp

theorem Engine.evaluateAuthorization_eq_true_iff (context : Context) (rule : AccessRule)
    (roles : List Role) (subject : String) :
    Engine.embedded.evaluateAuthorization context rule roles subject = .ok true ↔
      context.Live ∧ rule.grants roles = true := by
  rw [evaluateAuthorization_embedded, Context.Live, ← Standing.check_eq_ok_iff,
    ← Standing.check_eq_ok_iff]
  cases context.before.check with
  | error error => simp
  | ok _ =>
      cases context.after.check with
      | error error => simp
      | ok _ => simp

end Turnstile.Policy
