import Turnstile.Policy.Engine
import Turnstile.Proofs.Policy.Rules
import Turnstile.Proofs.Policy.Texts
set_option autoImplicit false

/-! What the embedded authorization policy decides. Every access rule comes to a boolean
for any roles and any subject, so that only a caller that gives up is left without a
decision. -/

namespace Turnstile

/-- Whether some roles of a subject that acts on itself satisfy an access rule. -/
def AccessRule.grants : AccessRule → List Role → Bool
  | any, roles => roles.contains .admin || roles.contains .user
  | adminOnly, roles => roles.contains .admin
  | userOnly, roles => roles.contains .user
  | adminOrSubject, roles => roles.contains .admin || roles.contains .user

theorem Role.name_injective {left right : Role} (same : left.name = right.name) : left = right := by
  have found : ofName? left.name = ofName? right.name := congrArg ofName? same
  rw [ofName?_name, ofName?_name] at found
  exact Option.some.inj found

theorem Role.contains_map_name (roles : List Role) (role : Role) :
    (roles.map name).contains role.name = roles.contains role := by
  rw [Bool.eq_iff_iff, List.contains_iff_mem, List.contains_iff_mem, List.mem_map]
  constructor
  · rintro ⟨other, member, same⟩
    exact name_injective same ▸ member
  · intro member
    exact ⟨role, member, rfl⟩

namespace AccessRule

/-- Any role satisfies the rule for any role, and no role does not. -/
theorem grants_any (roles : List Role) : any.grants roles = !roles.isEmpty := by
  cases roles with
  | nil => rfl
  | cons role rest =>
      cases role with
      | admin => simp [grants]
      | user => simp [grants]

end AccessRule

namespace Policy

/-- What the authorization policy is told, as policies see it. -/
def Engine.authorizationValue (roles : List Role) (subject : String) : Value :=
  .object [(.string "Roles", .array ((roles.map Role.name).map .string)),
    (.string "Subject", .string subject), (.string "UserID", .string subject)]

theorem enter?_authorizationInput (roles : List Role) (subject : String) :
    Value.enter? (.object (Engine.authorizationInput roles subject)) =
      some (Engine.authorizationValue roles subject) := by
  have names : (roles.map fun role => Json.string role.name) =
      (roles.map Role.name).map Json.string := by
    rw [List.map_map]
    rfl
  simp only [Value.enter?, Json.reread?, Engine.authorizationInput, names, Json.depth,
    Json.depthOfMembers, depthOfItems_string, Json.depthLimit, Json.rereadNumbers?,
    Json.rereadMembers?, rereadItems?_string, Option.map_some]
  rw [if_pos (by decide), Option.bind_some]
  simp only [Value.ofJson?, Value.ofMembers?, ofItems?_string, Option.map_some, Option.bind_some]
  rfl

namespace Embedded

section Rules

variable (roles : List Role) (subject : String) (now : Int)

private def ruleScope (depth : Nat) : Scope :=
  authorizationModule.scope now depth ⟨Engine.authorizationValue roles subject, []⟩

private theorem ruleScope_input (depth : Nat) :
    (ruleScope roles subject now depth).world.input = Engine.authorizationValue roles subject := by
  rw [ruleScope, Module.scope_world]

private def roleRule : Role → String
  | .admin => "role_admin"
  | .user => "role_user"

private theorem document_roleRule (role : Role) (depth : Nat) (locals : Locals) :
    (Expr.document (authorizationPackage ++ [roleRule role])).eval
        (ruleScope roles subject now (depth + 1)) locals =
      .value (.string role.name) := by
  rw [Expr.eval, ruleScope, Module.scope_world, Module.scope_document,
    World.replacement?_unchanged]
  cases role with
  | admin =>
      exact (document_rule authorizationModule
        (constantRule "role_admin" (.constant (.string "ADMIN"))) _ rfl).trans
        (eval_constantRule _ _ rfl)
  | user =>
      exact (document_rule authorizationModule
        (constantRule "role_user" (.constant (.string "USER"))) _ rfl).trans
        (eval_constantRule _ _ rfl)

private theorem solveAll_holdsRole (role : Role) (rest : List Statement) (depth : Nat) :
    solveAll (ruleScope roles subject now (depth + 1)) (holdsRole (roleRule role) :: rest) [] =
      if roles.contains role then solveAll (ruleScope roles subject now (depth + 1)) rest []
      else .ok [] := by
  have evaluated : (Expr.within (.document (authorizationPackage ++ [roleRule role]))
      (handedIn "Roles")).eval (ruleScope roles subject now (depth + 1)) [] =
        .value (.bool (roles.contains role)) := by
    have handed : (handedIn "Roles").eval (ruleScope roles subject now (depth + 1)) [] =
        .value (.array ((roles.map Role.name).map .string)) :=
      eval_handedIn _ _ (by rw [ruleScope_input]; rfl)
    rw [Expr.eval, document_roleRule, handed, membership, Value.has_array_string,
      Role.contains_map_name]
  rw [holdsRole, solveAll_holds _ _ _ _ evaluated]
  cases roles.contains role <;> rfl

private theorem solveAll_actsOnSelf (depth : Nat) :
    solveAll (ruleScope roles subject now depth) [actsOnSelf] [] = .ok [[]] := by
  have evaluated : (Expr.operation .equal (handedIn "UserID") (handedIn "Subject")).eval
      (ruleScope roles subject now depth) [] = .value (.bool true) := by
    have user : (handedIn "UserID").eval (ruleScope roles subject now depth) [] =
        .value (.string subject) := eval_handedIn _ _ (by rw [ruleScope_input]; rfl)
    have self : (handedIn "Subject").eval (ruleScope roles subject now depth) [] =
        .value (.string subject) := eval_handedIn _ _ (by rw [ruleScope_input]; rfl)
    rw [Expr.eval, user, self]
    simp only [Outcome.andThen, Operator.apply, Operator.ofOrder?,
      (Value.order_string_eq_iff subject subject).mpr rfl]
    rfl
  rw [actsOnSelf, solveAll_holds _ _ _ _ evaluated, solveAll_nil]
  rfl

end Rules

private def decidingRule : AccessRule → RuleGroup
  | .any => flag "rule_any" [[holdsRole "role_admin"], [holdsRole "role_user"]]
  | .adminOnly => flag "rule_admin_only" [[holdsRole "role_admin"]]
  | .userOnly => flag "rule_user_only" [[holdsRole "role_user"]]
  | .adminOrSubject => flag "rule_admin_or_subject"
      [[holdsRole "role_admin"], [holdsRole "role_user", actsOnSelf]]

private theorem find_decidingRule (rule : AccessRule) :
    (authorizationModule.documents.find? fun other =>
      other.path.isPrefixOf (decidingRule rule).path) = some (decidingRule rule) := by
  cases rule <;> rfl

private theorem eval_decidingRule (rule : AccessRule) (roles : List Role) (subject : String)
    (now : Int) (depth : Nat) :
    (decidingRule rule).eval (ruleScope roles subject now (depth + 1)) [] =
      .value (.bool (rule.grants roles)) := by
  have admin := fun rest => solveAll_holdsRole roles subject now .admin rest depth
  have user := fun rest => solveAll_holdsRole roles subject now .user rest depth
  have self := solveAll_actsOnSelf roles subject now (depth + 1)
  simp only [roleRule] at admin user
  cases rule with
  | any =>
      rw [decidingRule, eval_flag]
      simp only [collectSolutions, admin, user, solveAll_nil, AccessRule.grants]
      cases roles.contains Role.admin <;> cases roles.contains Role.user <;> rfl
  | adminOnly =>
      rw [decidingRule, eval_flag]
      simp only [collectSolutions, admin, solveAll_nil, AccessRule.grants]
      cases roles.contains Role.admin <;> rfl
  | userOnly =>
      rw [decidingRule, eval_flag]
      simp only [collectSolutions, user, solveAll_nil, AccessRule.grants]
      cases roles.contains Role.user <;> rfl
  | adminOrSubject =>
      rw [decidingRule, eval_flag]
      simp only [collectSolutions, admin, user, self, AccessRule.grants]
      cases roles.contains Role.admin <;> cases roles.contains Role.user <;> rfl

theorem scanned_authorization (rule : AccessRule) :
    Token.scan? (authorization.queryText rule.policyRule).toList =
      some (queryTokens (authorizationPackage ++ [rule.policyRule])) := by
  cases rule <;> decide +kernel

theorem names_authorization (rule : AccessRule) :
    ∀ field ∈ authorizationPackage ++ [rule.policyRule],
      Dialect.plain.name? field = some field := by
  cases rule <;> decide +kernel

theorem queryRows_authorization (rule : AccessRule) (roles : List Role) (subject : String)
    (now : Int) :
    authorization.queryRows (authorization.queryText rule.policyRule) now
        (Engine.authorizationInput roles subject) =
      .ok [[(resultBinding, .bool (rule.grants roles))]] := by
  rw [queryRows_of_path authorizationModule _ now rfl (scanned_authorization rule)
    (names_authorization rule) (enter?_authorizationInput roles subject)]
  have path : authorizationPackage ++ [rule.policyRule] =
      authorizationModule.package ++ (decidingRule rule).path := by
    cases rule <;> rfl
  rw [path, document_rule _ _ _ (find_decidingRule rule)]
  have value := eval_decidingRule rule roles subject now 5
  rw [ruleScope] at value
  rw [show authorizationModule.rules.length = 5 + 1 from rfl, value]
  rfl

end Embedded

theorem Engine.evaluateAuthorization_embedded (context : Context) (rule : AccessRule)
    (roles : List Role) (subject : String) :
    Engine.embedded.evaluateAuthorization context rule roles subject =
      match context.before.check with
      | .error error => .error error
      | .ok () =>
          match context.after.check with
          | .error error => .error error
          | .ok () => .ok (rule.grants roles) := by
  simp only [evaluateAuthorization, embedded, PreparedQuery.decide, PreparedQuery.eval,
    PreparedQuery.run, PreparedQuery.ofRule, Embedded.queryRows_authorization]
  cases context.before.check with
  | error error => rfl
  | ok _ =>
      cases context.after.check with
      | error error => rfl
      | ok _ => rfl

end Policy

end Turnstile
