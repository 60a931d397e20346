import Turnstile.Policy.Eval
set_option autoImplicit false

/-! The values of rules, and what stands at a path from the root of all packages. Only the
rules that are asked for are evaluated. -/

namespace Turnstile.Policy

/-- What stands at keys in the value of a rule. -/
abbrev Entry := List Value × Value

namespace Branch

def entry (scope : Scope) (branch : Branch) (locals : Locals) : Outcome Entry :=
  (evalAll scope locals branch.keys).andThen fun keys =>
    (branch.value.eval scope locals).map fun value => (keys, value)

end Branch

def firstBranch (scope : Scope) (locals : Locals) : List Branch → Outcome (List Entry)
  | [] => .value []
  | branch :: rest =>
      match solveAll scope branch.body locals with
      | .error cause => .fault cause
      | .ok [] => firstBranch scope locals rest
      | .ok solutions => collectDefined (branch.entry scope) (.ok solutions)

namespace Definition

/-- The entries of a definition for some arguments, if they have the form of its
parameters. -/
def entries (scope : Scope) (arguments : List Value) (definition : Definition) :
    Outcome (List Entry) :=
  if definition.parameters.length ≠ arguments.length then .fault .engine
  else
    match solveItems scope definition.parameters arguments [] with
    | .fault cause => .fault cause
    | .undefined => .value []
    | .value locals => firstBranch scope locals definition.branches

end Definition

namespace RuleGroup

def entries (scope : Scope) (arguments : List Value) (rule : RuleGroup) :
    Outcome (List Entry) :=
  (collectDefined (Definition.entries scope arguments) (.ok rule.definitions)).map List.flatten

/-- The value that entries make up: each at its keys, where others may only agree. -/
def assemble : Option Value → List Entry → Outcome Value
  | none, [] => .undefined
  | some value, [] => .value value
  | whole, (keys, value) :: rest =>
      match Value.place? whole keys value with
      | some whole => assemble (some whole) rest
      | none => .fault .engine

def withDefault (scope : Scope) (rule : RuleGroup) (outcome : Outcome Value) : Outcome Value :=
  match outcome, rule.default with
  | .undefined, some expr => expr.eval scope []
  | outcome, _ => outcome

def eval (scope : Scope) (arguments : List Value) (rule : RuleGroup) : Outcome Value :=
  rule.withDefault scope ((rule.entries scope arguments).andThen fun entries =>
    match rule.kind with
    | .members => .value (Value.setOf (entries.map Prod.snd))
    | .entries => assemble (some (.object [])) entries
    | .single => assemble none entries
    | .function => assemble none entries)

end RuleGroup

namespace Module

def documents (module : Module) : List RuleGroup :=
  module.rules.filter fun rule => rule.kind ≠ .function

/-- The object of the values of some rules, each at its path behind `depth` steps. -/
def gather (depth : Nat) (valueOf : RuleGroup → Outcome Value) :
    Value → List RuleGroup → Outcome Value
  | whole, [] => .value whole
  | whole, rule :: rest =>
      match valueOf rule with
      | .fault cause => .fault cause
      | .undefined => gather depth valueOf whole rest
      | .value value =>
          match Value.place? (some whole) ((rule.path.drop depth).map .string) value with
          | some whole => gather depth valueOf whole rest
          | none => .fault .engine

/-- What stands at a path from the package: a part of the value of a rule, or the values of
all rules whose paths lead on from there. -/
def within (module : Module) (valueOf : RuleGroup → Outcome Value) (path : List String) :
    Outcome Value :=
  match module.documents.find? fun rule => rule.path.isPrefixOf path with
  | some rule =>
      (valueOf rule).andThen fun value => .ofOption (value.follow? (path.drop rule.path.length))
  | none =>
      let rules := module.documents.filter fun rule => path.isPrefixOf rule.path
      if rules.isEmpty && !path.isEmpty then .undefined
      else gather path.length valueOf (.object []) rules

def document (module : Module) (valueOf : RuleGroup → Outcome Value) (path : List String) :
    Outcome Value :=
  if module.package.isPrefixOf path then
    module.within valueOf (path.drop module.package.length)
  else if path.isPrefixOf module.package then
    (module.within valueOf []).map (Value.nest (module.package.drop path.length))
  else .undefined

def apply (module : Module) (valueOf : RuleGroup → Outcome Value) (path : List String) :
    Outcome Value :=
  match module.rules.find? fun rule =>
      rule.kind = .function && module.package ++ rule.path = path with
  | some rule => valueOf rule
  | none => .fault .engine

/-- The scope of a module. Rules may use each other `depth` deep; rules that use
themselves have no value and are a fault. -/
def scope (module : Module) (now : Int) : (depth : Nat) → World → Scope
  | 0, world => ⟨now, world, fun _ _ => .fault .engine, fun _ _ _ => .fault .engine⟩
  | depth + 1, world =>
      { now := now
        world := world
        document := fun world path =>
          match world.replacement? path with
          | some value => .ofOption value
          | none => module.document (fun rule => rule.eval (module.scope now depth world) []) path
        apply := fun world path arguments =>
          module.apply (fun rule => rule.eval (module.scope now depth world) arguments) path }

/-- At a path, a scope shows what the module says there, evaluated one level deeper. -/
theorem scope_document (module : Module) (now : Int) (depth : Nat) (world changed : World)
    (path : List String) :
    (module.scope now (depth + 1) world).document changed path =
      match changed.replacement? path with
      | some value => .ofOption value
      | none => module.document (fun rule => rule.eval (module.scope now depth changed) []) path :=
  rfl

theorem scope_world (module : Module) (now : Int) (depth : Nat) (world : World) :
    (module.scope now depth world).world = world := by
  cases depth <;> rfl

theorem scope_now (module : Module) (now : Int) (depth : Nat) (world : World) :
    (module.scope now depth world).now = now := by
  cases depth <;> rfl

/-- The scope of a module in which every rule can be evaluated that does not use
itself. -/
def wholeScope (module : Module) (now : Int) (input : Value) : Scope :=
  module.scope now (module.rules.length + 1) ⟨input, []⟩

end Module

end Turnstile.Policy
