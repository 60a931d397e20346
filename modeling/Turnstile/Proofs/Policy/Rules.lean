import Turnstile.Policy.Embedded
import Turnstile.Proofs.Policy.QueryText
set_option autoImplicit false

/-! What queries for rules come to. The rows of a query hold the value of the rule that
it asks for. A rule that is false unless one of its bodies holds has a value on every
input on which no body is a fault, and then the value tells whether a body has a
solution. -/

namespace Turnstile.Policy

/-! ### Rows of a query -/

/-- The rows that show what a rule comes to. -/
def rowsOf : Outcome Value → Except Fault Rows
  | .value value => .ok [[(resultBinding, value.toJson)]]
  | .undefined => .ok []
  | .fault cause => .error cause

theorem queryRows_of_path {named : NamedModule} (module : Module) {query : String}
    {path : List String} {input : Input} (entered : Value) (now : Int)
    (linked : named.module = some module)
    (scanned : Token.scan? query.toList = some (queryTokens path))
    (names : ∀ field ∈ path, Dialect.plain.name? field = some field)
    (enters : Value.enter? (.object input) = some entered) :
    named.queryRows query now input =
      rowsOf (module.document
        (fun rule => rule.eval (module.scope now module.rules.length ⟨entered, []⟩) []) path) := by
  have statement : (Literal.queryOf? query).bind Literal.linkAlone? =
      some [.bind (.name resultBinding) (.document path)] := by
    rw [queryOf?_of_scan scanned names]
    exact linkAlone?_query path
  have found : (Expr.document path).eval (module.wholeScope now entered) [] =
      module.document
        (fun rule => rule.eval (module.scope now module.rules.length ⟨entered, []⟩) []) path := by
    rw [Expr.eval]
    unfold Module.wholeScope
    rw [Module.scope_world, Module.scope_document, World.replacement?_unchanged]
  simp only [NamedModule.queryRows, linked, enters, statement, solveAll, Statement.solve, found]
  cases module.document
    (fun rule => rule.eval (module.scope now module.rules.length ⟨entered, []⟩) []) path with
  | value value => rfl
  | undefined => rfl
  | fault cause => rfl

/-- At the path of a rule stands the value of the rule. -/
theorem document_rule (module : Module) (rule : RuleGroup) (valueOf : RuleGroup → Outcome Value)
    (found : (module.documents.find? fun other => other.path.isPrefixOf rule.path) = some rule) :
    module.document valueOf (module.package ++ rule.path) = valueOf rule := by
  have inside : module.package.isPrefixOf (module.package ++ rule.path) = true :=
    List.isPrefixOf_iff_prefix.mpr (List.prefix_append _ _)
  have behind : (module.package ++ rule.path).drop module.package.length = rule.path :=
    List.drop_left
  rw [Module.document, if_pos inside, behind]
  simp only [Module.within, found, List.drop_length, Value.follow?]
  cases valueOf rule with
  | value value => rfl
  | undefined => rfl
  | fault cause => rfl

/-! ### Solutions -/

theorem solveAll_nil (scope : Scope) (locals : Locals) :
    solveAll scope [] locals = .ok [locals] := by
  rw [solveAll]

theorem solveAll_holds (scope : Scope) (expr : Expr) (rest : List Statement) (locals : Locals)
    {value : Value} (evaluated : expr.eval scope locals = .value value) :
    solveAll scope (.holds expr :: rest) locals =
      if value.same (.bool false) then .ok [] else solveAll scope rest locals := by
  have single : collectSolutions (fun locals => solveAll scope rest locals) [locals] =
      solveAll scope rest locals := by
    simp only [collectSolutions]
    cases solveAll scope rest locals <;> simp
  simp only [solveAll, Statement.solve, evaluated]
  cases value with
  | bool truth =>
      cases truth with
      | false => rfl
      | true => exact single
  | null => exact single
  | number _ => exact single
  | string _ => exact single
  | array _ => exact single
  | set _ => exact single
  | object _ => exact single

/-! ### Rules with one value -/

namespace Embedded

theorem eval_handedIn (scope : Scope) (locals : Locals) {name : String} {value : Value}
    (found : scope.world.input.at? (.string name) = some value) :
    (handedIn name).eval scope locals = .value value := by
  simp only [handedIn, Expr.eval, Outcome.andThen, found, Outcome.ofOption]

private def bodyDefinition (value : Value) (body : List Statement) : Definition :=
  ⟨[], [⟨body, [], .constant value⟩]⟩

private theorem collectDefined_constant (scope : Scope) (body : List Statement) (value : Value)
    (solutions : List Locals) :
    collectDefined (Branch.entry scope ⟨body, [], .constant value⟩) (.ok solutions) =
      .value (solutions.map fun _ => ([], value)) := by
  induction solutions with
  | nil => rfl
  | cons locals rest ih =>
      simp only [collectDefined, collectSolutions, Branch.entry, evalAll, Expr.eval,
        Outcome.andThen, Outcome.map, Outcome.toExcept, Except.map, Option.toList] at ih ⊢
      revert ih
      cases collectSolutions (fun (_ : Locals) => Except.ok [(([] : List Value), value)]) rest with
      | error cause =>
          intro ih
          cases ih
      | ok found =>
          intro ih
          injection ih with same
          simp only [same, List.map_cons, List.singleton_append]

private theorem entries_bodyDefinition (scope : Scope) (value : Value) (body : List Statement) :
    ((bodyDefinition value body).entries scope []).toExcept.map Option.toList =
      match solveAll scope body [] with
      | .error cause => .error cause
      | .ok solutions => .ok [solutions.map fun _ => ([], value)] := by
  simp only [Definition.entries, bodyDefinition, List.length_nil, ne_eq, not_true_eq_false,
    if_false, solveItems, firstBranch]
  cases solveAll scope body [] with
  | error cause => rfl
  | ok solutions =>
      cases solutions with
      | nil => rfl
      | cons first rest =>
          simp only [collectDefined_constant]
          rfl

private theorem entries_bodyDefinitions (scope : Scope) (value : Value)
    (bodies : List (List Statement)) :
    match collectSolutions (fun body => solveAll scope body []) bodies with
    | .error cause =>
        collectSolutions (fun definition : Definition =>
          (definition.entries scope []).toExcept.map Option.toList)
          (bodies.map (bodyDefinition value)) = .error cause
    | .ok found =>
        ∃ groups, collectSolutions (fun definition : Definition =>
            (definition.entries scope []).toExcept.map Option.toList)
            (bodies.map (bodyDefinition value)) = .ok groups ∧
          groups.flatten = found.map fun _ => ([], value) := by
  induction bodies with
  | nil => exact ⟨[], rfl, rfl⟩
  | cons body rest ih =>
      rw [List.map_cons, collectSolutions, collectSolutions, entries_bodyDefinition]
      cases solveAll scope body [] with
      | error cause => rfl
      | ok solutions =>
          cases others : collectSolutions (fun body => solveAll scope body []) rest with
          | error cause =>
              rw [others] at ih
              simp only [ih]
          | ok found =>
              rw [others] at ih
              obtain ⟨groups, collected, flattened⟩ := ih
              refine ⟨(solutions.map fun _ => ([], value)) :: groups, ?_, ?_⟩
              · simp only [collected, List.singleton_append]
              · rw [List.flatten_cons, flattened, List.map_append]

private theorem assemble_constant (value : Value) (reflexive : value.same value = true)
    (found : List Locals) :
    RuleGroup.assemble (some value) (found.map fun _ => ([], value)) = .value value := by
  induction found with
  | nil => rfl
  | cons locals rest ih =>
      simp only [List.map_cons, RuleGroup.assemble, Value.place?, reflexive, if_true]
      exact ih

private theorem eval_ruleOf (scope : Scope) (name : String) (default : Option Expr) (value : Value)
    (reflexive : value.same value = true) (bodies : List (List Statement)) :
    (ruleOf name default (bodies.map fun body => (body, .constant value))).eval scope [] =
      match collectSolutions (fun body => solveAll scope body []) bodies with
      | .error cause => .fault cause
      | .ok [] => RuleGroup.withDefault scope (ruleOf name default []) .undefined
      | .ok (_ :: _) => .value value := by
  have definitions : (ruleOf name default
      (bodies.map fun body => (body, Expr.constant value))).definitions =
        bodies.map (bodyDefinition value) := by
    simp only [ruleOf, List.map_map]
    rfl
  have collected := entries_bodyDefinitions scope value bodies
  simp only [RuleGroup.eval, RuleGroup.entries, definitions, collectDefined]
  cases solved : collectSolutions (fun body => solveAll scope body []) bodies with
  | error cause =>
      rw [solved] at collected
      rw [collected]
      rfl
  | ok found =>
      rw [solved] at collected
      obtain ⟨groups, gathered, flattened⟩ := collected
      rw [gathered]
      simp only [Outcome.map, Outcome.andThen, flattened]
      cases found with
      | nil => rfl
      | cons first rest =>
          have assembled : RuleGroup.assemble none
              ((first :: rest).map fun _ => (([] : List Value), value)) = .value value :=
            assemble_constant value reflexive rest
          simp only [ruleOf, assembled]
          rfl

/-- A flag is true if some body has a solution and false if none has. -/
theorem eval_flag (scope : Scope) (name : String) (bodies : List (List Statement)) :
    (flag name bodies).eval scope [] =
      match collectSolutions (fun body => solveAll scope body []) bodies with
      | .error cause => .fault cause
      | .ok found => .value (.bool !found.isEmpty) := by
  rw [flag, eval_ruleOf scope name _ (.bool true) rfl bodies]
  cases collectSolutions (fun body => solveAll scope body []) bodies with
  | error cause => rfl
  | ok found =>
      cases found with
      | nil => rfl
      | cons first rest => rfl

theorem eval_constantRule (scope : Scope) (name : String) {expr : Expr} {value : Value}
    (evaluated : expr.eval scope [] = .value value) :
    (constantRule name expr).eval scope [] = .value value := by
  simp only [constantRule, ruleOf, RuleGroup.eval, RuleGroup.entries, List.map_cons, List.map_nil,
    collectDefined, collectSolutions, Definition.entries, List.length_nil, ne_eq,
    not_true_eq_false, if_false, solveItems, firstBranch, solveAll, Branch.entry, evalAll,
    evaluated, Outcome.andThen, Outcome.map, Outcome.toExcept, Except.map, Option.toList]
  rfl

end Embedded

end Turnstile.Policy
