import Turnstile.Policy.Expr
set_option autoImplicit false

/-! From terms to expressions. Names get their meanings, and the literals of a query an
order: the first literal whose names have values comes next. A place that is a name
without a value is looked for in the whole collection. Where a name never gets a
value, there is no order and no result. -/

namespace Turnstile.Policy

structure Names where
  package : List String
  /-- The first steps of the paths of rules. -/
  rules : List String
  functions : List (List String)
  imports : List (String × List String)

namespace Names

def roots : List String := ["input", "data"]

def knows (names : Names) (name : String) : Bool :=
  roots.contains name || names.rules.contains name || (names.imports.lookup name).isSome

def rooted? (names : Names) (name : String) (fields : List String) : Option (List String) :=
  if roots.contains name then some (name :: fields)
  else
    match names.imports.lookup name with
    | some path => some (path ++ fields)
    | none =>
        if names.rules.contains name then some ("data" :: names.package ++ name :: fields)
        else none

def function? (names : Names) (function : List String) : Option (List String) :=
  if names.functions.contains function then some (names.package ++ function)
  else
    match function with
    | name :: fields =>
        match names.rooted? name fields with
        | some ("data" :: path) => some path
        | _ => none
    | [] => none

end Names

structure Surroundings where
  names : Names
  /-- The local names of the queries around, with and without a value. -/
  locals : List String

structure Progress where
  bound : List String
  body : List Statement

/-- Links something, unless a name is still without a value. -/
abbrev Linker (Result : Type) := Surroundings → Progress → Option (Result × Progress)

namespace Linker

variable {First Second : Type}

def pure (result : First) : Linker First := fun _ progress => some (result, progress)

def fail : Linker First := fun _ _ => none

def andThen (first : Linker First) (next : First → Linker Second) : Linker Second :=
  fun surroundings progress =>
    match first surroundings progress with
    | some (result, progress) => next result surroundings progress
    | none => none

def map (change : First → Second) (linker : Linker First) : Linker Second :=
  linker.andThen fun result => pure (change result)

def orElse (first second : Linker First) : Linker First := fun surroundings progress =>
  match first surroundings progress with
  | some result => some result
  | none => second surroundings progress

def emit (statement : Statement) : Linker Unit := fun _ progress =>
  some ((), { progress with body := progress.body ++ [statement] })

/-- The statements of a linker by themselves, with its result. What they bind stays among
them. -/
def apart (linker : Linker First) : Linker (List Statement × First) :=
  fun surroundings progress =>
    match linker surroundings { progress with body := [] } with
    | some (result, found) => some ((found.body, result), progress)
    | none => none

/-- The statements of a linker by themselves. What they bind is bound behind them too. -/
def gathered (linker : Linker First) : Linker (List Statement) := fun surroundings progress =>
  match linker surroundings { progress with body := [] } with
  | some (_, found) => some (found.body, { progress with bound := found.bound })
  | none => none

/-- Link in the scope of further names, none of which has a value yet. -/
def within (locals : List String) (linker : Linker First) : Linker First :=
  fun surroundings progress =>
    linker { surroundings with locals := locals ++ surroundings.locals }
      { progress with bound := progress.bound.filter fun name => !locals.contains name }

def bindName (name : String) : Linker Unit := fun _ progress =>
  some ((), { progress with bound := name :: progress.bound })

/-- Link only when names that are local and written out have values. -/
def whenBound (names : List String) (linker : Linker First) : Linker First :=
  fun surroundings progress =>
    if names.all fun name =>
        isWildcard name || !surroundings.locals.contains name ||
          progress.bound.contains name then
      linker surroundings progress
    else none

/-- The first linker that has a result has its turn; the others are left. -/
def firstReady : List (Linker Unit) → Linker (List (Linker Unit))
  | [] => fail
  | linker :: rest => fun surroundings progress =>
      match linker surroundings progress with
      | some ((), progress) => some (rest, progress)
      | none =>
          (firstReady rest surroundings progress).map fun (others, progress) =>
            (linker :: others, progress)

/-- Every linker has its turn as soon as it has a result; `rounds` bounds their number. -/
def inOrder : (rounds : Nat) → List (Linker Unit) → Linker Unit
  | _, [] => pure ()
  | 0, _ :: _ => fail
  | rounds + 1, linkers => (firstReady linkers).andThen fun others => inOrder rounds others

end Linker

def fieldsOf (base : Expr) (fields : List String) : Expr :=
  fields.foldl (fun base field => .index base (.constant (.string field))) base

def rootedExpr : List String → Expr
  | "input" :: fields => fieldsOf .input fields
  | path => .document path.tail

/-- Link a path. A local name has to have a value. -/
def linkPath (name : String) (fields : List String) : Linker Expr :=
  fun surroundings progress =>
    if surroundings.locals.contains name then
      if progress.bound.contains name then some (fieldsOf (.name name) fields, progress) else none
    else
      (surroundings.names.rooted? name fields).map fun path => (rootedExpr path, progress)

def linkCall (function : List String) (arguments : List Expr) : Linker Expr :=
  fun surroundings progress =>
    match surroundings.names.function? function with
    | some path => some (.apply path arguments, progress)
    | none => some (.call (".".intercalate function) arguments, progress)

def linkNewName (name : String) : Linker Pattern := fun surroundings progress =>
  if surroundings.locals.contains name && !progress.bound.contains name then
    some (.name name, { progress with bound := name :: progress.bound })
  else none

namespace Literal

/-- Whether a name that a query declares is used in a literal up to its declaration. -/
def usesEarly : List Literal → Bool
  | [] => false
  | literal :: rest =>
      let later := (literal :: rest).flatMap declared
      literal.used.any later.contains || usesEarly rest

def declaresTwice (query : List Literal) : Bool :=
  let names := query.flatMap declared
  names.length != names.eraseDups.length

end Literal

/-- Link a query and then what its solutions are used for, which has the given names.
The names of its own are those it declares and those without a meaning outside. -/
def linkQuery {Result : Type} (query : List Literal) (linkers : List (Linker Unit))
    (headNames : List String) (head : Linker Result) : Linker Result :=
  fun surroundings progress =>
    let declared := query.flatMap Literal.declared
    let met := query.flatMap Literal.used ++ headNames
    let free := met.filter fun name =>
      !declared.contains name && !surroundings.locals.contains name &&
        !surroundings.names.knows name
    if Literal.declaresTwice query || Literal.usesEarly query then none
    else
      ((Linker.inOrder linkers.length linkers).andThen fun () => head).within
        (declared ++ free) surroundings progress

/-- Whether two terms are arrays. Those of one length have been taken apart, so these
have no value in common. -/
def Term.areArrays : Term → Term → Bool
  | .array _, .array _ => true
  | _, _ => false

mutual

def Term.link : Term → Linker Expr
  | .constant value => .pure (.constant value)
  | .path name fields => linkPath name fields
  | .index base place =>
      base.link.andThen fun base =>
        (place.link.map fun place => Expr.index base place).orElse
          (place.linkPattern.andThen fun key =>
            (Linker.emit (.visit key base)).andThen fun () =>
              place.link.map fun place => Expr.index base place)
  | .array items => (linkTerms items).map .array
  | .set items => (linkTerms items).map .set
  | .object members => (linkMembers members).map .object
  | .call function arguments => (linkTerms arguments).andThen (linkCall function)
  | .negate term => term.link.map .negate
  | .operation operator left right =>
      left.link.andThen fun left => right.link.map fun right => .operation operator left right
  | .within item collection =>
      item.link.andThen fun item => collection.link.map fun collection => .within item collection
  | .withinAt key item collection =>
      key.link.andThen fun key => item.link.andThen fun item =>
        collection.link.map fun collection => .withinAt key item collection
  | .arrayOf item query =>
      (linkQuery query (linkLiterals query) item.names item.link).apart.map
        fun (body, item) => .arrayOf body item
  | .setOf item query =>
      (linkQuery query (linkLiterals query) item.names item.link).apart.map
        fun (body, item) => .setOf body item
  | .objectOf key value query =>
      (linkQuery query (linkLiterals query) (key.names ++ value.names)
          (key.link.andThen fun key => value.link.map fun value => (key, value))).apart.map
        fun (body, key, value) => .objectOf body key value

def linkTerms : List Term → Linker (List Expr)
  | [] => .pure []
  | term :: rest => term.link.andThen fun expr => (linkTerms rest).map fun exprs => expr :: exprs

def linkMembers : List (Term × Term) → Linker (List (Expr × Expr))
  | [] => .pure []
  | (key, value) :: rest =>
      key.link.andThen fun key => value.link.andThen fun value =>
        (linkMembers rest).map fun members => (key, value) :: members

def Term.linkPattern : Term → Linker Pattern
  | .path name [] => linkNewName name
  | .array items => (linkPatterns items).map .array
  | .object members => (linkMemberPatterns members).map .object
  | _ => .fail

def linkPatterns : List Term → Linker (List Pattern)
  | [] => .pure []
  | term :: rest =>
      (term.linkPattern.orElse (term.link.map .value)).andThen fun pattern =>
        (linkPatterns rest).map fun patterns => pattern :: patterns

def linkMemberPatterns : List (Term × Term) → Linker (List (Expr × Pattern))
  | [] => .pure []
  | (key, value) :: rest =>
      key.link.andThen fun key =>
        (value.linkPattern.orElse (value.link.map .value)).andThen fun value =>
          (linkMemberPatterns rest).map fun members => (key, value) :: members

def Literal.link : Literal → Linker Unit
  | .holds term => term.link.andThen fun expr => .emit (.holds expr)
  | .fails term =>
      (((term.link.andThen fun expr => .emit (.holds expr)).whenBound term.names).apart).andThen
        fun (body, ()) => .emit (.fails body)
  | .assign target term =>
      if Term.areArrays target term then .fail
      else
        term.link.andThen fun expr =>
          (target.linkPattern.orElse (target.link.map .value)).andThen fun pattern =>
            .emit (.bind pattern expr)
  | .unify left right =>
      if Term.areArrays left right then .fail
      else
        (right.link.andThen fun expr =>
            (left.linkPattern.orElse (left.link.map .value)).andThen fun pattern =>
              .emit (.bind pattern expr)).orElse
          (left.link.andThen fun expr => right.linkPattern.andThen fun pattern =>
            .emit (.bind pattern expr))
  | .declare _ => .pure ()
  | .choose key item collection =>
      collection.link.andThen fun collection =>
        (key.linkPattern.orElse (key.link.map .value)).andThen fun key =>
          (item.linkPattern.orElse (item.link.map .value)).andThen fun item =>
            .emit (.choose key item collection)
  | .every key item collection query =>
      collection.link.andThen fun collection =>
        ((((Linker.bindName key).andThen fun () => Linker.bindName item).andThen fun () =>
            linkQuery query (linkLiterals query) [] (.pure ())).within [key, item]).apart.andThen
          fun (body, ()) => .emit (.every key item collection body)
  | .changed literal path term =>
      term.link.andThen fun expr => literal.link.gathered.andThen fun body =>
        match path with
        | "input" :: _ => .emit (.changed path expr body)
        | "data" :: _ => .emit (.changed path expr body)
        | _ => .fail

def linkLiterals : List Literal → List (Linker Unit)
  | [] => []
  | literal :: rest => literal.link :: linkLiterals rest

end

end Turnstile.Policy
