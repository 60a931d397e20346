import Turnstile.Policy.Expr
import Turnstile.Policy.Function
set_option autoImplicit false

/-! Evaluation of expressions and bodies. An expression has one value, is undefined, or is
a fault; a body has any number of solutions, which are values for its names. What stands at
a path from the root is asked of the scope. -/

namespace Turnstile.Policy

structure World where
  input : Value
  /-- Values that stand in for what packages say, by their paths; the first one counts. -/
  replaced : List (List String × Value)

namespace World

def change (world : World) (path : List String) (value : Value) : World :=
  match path with
  | "input" :: path => { world with input := world.input.replaceAt path value }
  | path => { world with replaced := (path.tail, value) :: world.replaced }

/-- The value that stands in for what packages say at a path, if there is one. -/
def replacement? (world : World) (path : List String) : Option (Option Value) :=
  (world.replaced.find? fun (place, _) => place.isPrefixOf path).map fun (place, value) =>
    value.follow? (path.drop place.length)

/-- In a world as it was handed in, what packages say stands everywhere. -/
theorem replacement?_unchanged (input : Value) (path : List String) :
    (World.mk input []).replacement? path = none := rfl

end World

structure Scope where
  /-- Seconds since the start of 1970. -/
  now : Int
  world : World
  /-- What stands at a path from the root of all packages. -/
  document : World → List String → Outcome Value
  /-- The value of a function of a package. -/
  apply : World → List String → List Value → Outcome Value

/-- The values that a body has found for names, the latest one in front. -/
abbrev Locals := List (String × Value)

def collectSolutions {Solution Found : Type} (solve : Solution → Except Fault (List Found)) :
    List Solution → Except Fault (List Found)
  | [] => .ok []
  | solution :: rest =>
      match solve solution, collectSolutions solve rest with
      | .error cause, _ => .error cause
      | _, .error cause => .error cause
      | .ok found, .ok others => .ok (found ++ others)

def collectDefined {Solution Found : Type} (result : Solution → Outcome Found)
    (solutions : Except Fault (List Solution)) : Outcome (List Found) :=
  match solutions with
  | .error cause => .fault cause
  | .ok solutions =>
      match collectSolutions
          (fun solution => (result solution).toExcept.map Option.toList) solutions with
      | .error cause => .fault cause
      | .ok found => .value found

/-- Members of which those with one key agree. -/
def agreeingObject (members : List (Value × Value)) : Outcome Value :=
  .expect (members.foldl
    (fun object? (key, value) => object?.bind fun object =>
      Value.place? (some object) [key] value) (some (.object [])))

/-- Whether a collection has an item. What is undefined is no item and has none. -/
def membership (collection : Outcome Value) (item : Outcome Value)
    (has : Value → Value → Bool) : Outcome Value :=
  match item, collection with
  | .fault cause, _ => .fault cause
  | _, .fault cause => .fault cause
  | .value item, .value collection => .value (.bool (has collection item))
  | _, _ => .value (.bool false)

mutual

def Expr.eval (scope : Scope) (locals : Locals) : Expr → Outcome Value
  | .constant value => .value value
  | .input => .value scope.world.input
  | .name text => .ofOption (locals.lookup text)
  | .document path => scope.document scope.world path
  | .index base place =>
      (base.eval scope locals).andThen fun base =>
        (place.eval scope locals).andThen fun place => .ofOption (base.at? place)
  | .array items => (evalAll scope locals items).map .array
  | .set items => (evalAll scope locals items).map Value.setOf
  | .object members => (evalMembers scope locals members).map Value.objectOf
  | .call function arguments =>
      (evalAll scope locals arguments).andThen (callFunction scope.now function)
  | .apply path arguments =>
      (evalAll scope locals arguments).andThen (scope.apply scope.world path)
  | .negate _ => .fault .engine
  | .operation operator left right =>
      (left.eval scope locals).andThen fun left =>
        (right.eval scope locals).andThen fun right => operator.apply left right
  | .within item collection =>
      membership (collection.eval scope locals) (item.eval scope locals) Value.has
  | .withinAt key item collection =>
      (key.eval scope locals).andThen fun key =>
        membership (collection.eval scope locals) (item.eval scope locals)
          fun collection item => collection.hasAt key item
  | .arrayOf body item =>
      (collectDefined (fun locals => item.eval scope locals) (solveAll scope body locals)).map
        .array
  | .setOf body item =>
      (collectDefined (fun locals => item.eval scope locals) (solveAll scope body locals)).map
        Value.setOf
  | .objectOf body key value =>
      (collectDefined
          (fun locals => (key.eval scope locals).andThen fun key =>
            (value.eval scope locals).map fun value => (key, value))
          (solveAll scope body locals)).andThen agreeingObject

def evalAll (scope : Scope) (locals : Locals) : List Expr → Outcome (List Value)
  | [] => .value []
  | expr :: rest =>
      (expr.eval scope locals).andThen fun value =>
        (evalAll scope locals rest).map fun values => value :: values

def evalMembers (scope : Scope) (locals : Locals) :
    List (Expr × Expr) → Outcome (List (Value × Value))
  | [] => .value []
  | (key, expr) :: rest =>
      (key.eval scope locals).andThen fun key =>
        (expr.eval scope locals).andThen fun value =>
          (evalMembers scope locals rest).map fun members => (key, value) :: members

/-- The locals with the names of a pattern, if a value has its form. -/
def Pattern.solve (scope : Scope) : Pattern → Value → Locals → Outcome Locals
  | .name text, value, locals => .value ((text, value) :: locals)
  | .value expr, value, locals =>
      (expr.eval scope locals).andThen fun found =>
        if found.same value then .value locals else .undefined
  | .array items, value, locals =>
      match value with
      | .array values => solveItems scope items values locals
      | _ => .undefined
  | .object members, value, locals =>
      match value with
      | .object values => solveMembers scope members values locals
      | _ => .undefined

/-- The locals with the names of patterns, if values have their forms one by one. -/
def solveItems (scope : Scope) : List Pattern → List Value → Locals → Outcome Locals
  | [], [], locals => .value locals
  | pattern :: rest, value :: values, locals =>
      (pattern.solve scope value locals).andThen (solveItems scope rest values)
  | _, _, _ => .undefined

/-- The locals with the names of patterns, if the values at their keys have their
forms. -/
def solveMembers (scope : Scope) :
    List (Expr × Pattern) → List (Value × Value) → Locals → Outcome Locals
  | [], _, locals => .value locals
  | (key, pattern) :: rest, values, locals =>
      (key.eval scope locals).andThen fun key =>
        (Outcome.ofOption (Value.member? key values)).andThen fun value =>
          (pattern.solve scope value locals).andThen (solveMembers scope rest values)

def Statement.solve (scope : Scope) (locals : Locals) : Statement → Except Fault (List Locals)
  | .holds expr =>
      match expr.eval scope locals with
      | .fault cause => .error cause
      | .undefined => .ok []
      | .value (.bool false) => .ok []
      | .value _ => .ok [locals]
  | .fails body =>
      (solveAll scope body locals).map fun solutions =>
        if solutions.isEmpty then [locals] else []
  | .bind pattern expr =>
      match expr.eval scope locals with
      | .fault cause => .error cause
      | .undefined => .ok []
      | .value value => (pattern.solve scope value locals).toExcept.map Option.toList
  | .visit key collection =>
      match collection.eval scope locals with
      | .fault cause => .error cause
      | .undefined => .ok []
      | .value value =>
          match value.entries? with
          | none => .error .engine
          | some entries =>
              collectSolutions
                (fun (place, _) => (key.solve scope place locals).toExcept.map Option.toList)
                entries
  | .choose key item collection =>
      match collection.eval scope locals with
      | .fault cause => .error cause
      | .undefined => .ok []
      | .value value =>
          match value.entries? with
          | none => .error .engine
          | some entries =>
              collectSolutions
                (fun (place, value) =>
                  ((key.solve scope place locals).andThen
                    (item.solve scope value)).toExcept.map Option.toList)
                entries
  | .every key item collection body =>
      match collection.eval scope locals with
      | .fault cause => .error cause
      | .undefined => .ok [locals]
      | .value value =>
          (collectSolutions
              (fun (place, value) =>
                (solveAll scope body ((item, value) :: (key, place) :: locals)).map fun found =>
                  if found.isEmpty then [()] else [])
              (value.entries?.getD [])).map fun failures =>
            if failures.isEmpty then [locals] else []
  | .changed path expr body =>
      match expr.eval scope locals with
      | .fault cause => .error cause
      | .undefined => .ok []
      | .value value =>
          solveAll { scope with world := scope.world.change path value } body locals

def solveAll (scope : Scope) : List Statement → Locals → Except Fault (List Locals)
  | [], locals => .ok [locals]
  | statement :: rest, locals =>
      match statement.solve scope locals with
      | .error cause => .error cause
      | .ok solutions => collectSolutions (fun locals => solveAll scope rest locals) solutions

end

end Turnstile.Policy
