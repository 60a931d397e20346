import Turnstile.Policy.Value
set_option autoImplicit false

/-! Policy sources as they are written. A source is a package of rules and what it
imports. A rule has a value for each of its definitions whose body holds; a
definition has branches, of which the first one that holds counts. Terms may hold
queries of their own, which collect what they find. -/

namespace Turnstile.Policy

/-- What names that are not written start with. No name that is written has a blank. -/
def wildcardStart : String := "_ "

/-- The name of an underscore, or of a key that is left out. It is told from others by
what stands for it and by the number of tokens behind that. -/
def wildcard (what : String) (behind : Nat) : String :=
  wildcardStart ++ what ++ toString behind

def isWildcard (name : String) : Bool := wildcardStart.toList.isPrefixOf name.toList

/-- What stands between two operands, apart from membership. -/
inductive Operator where
  | equal
  | unequal
  | less
  | atMost
  | greater
  | atLeast
  | union
  | intersection
  | add
  | subtract
  | multiply
  | divide
  | remainder
  deriving DecidableEq, Repr

mutual

inductive Term where
  | constant (value : Value)
  | path (name : String) (fields : List String)
  | index (base place : Term)
  | array (items : List Term)
  | set (items : List Term)
  | object (members : List (Term × Term))
  | call (function : List String) (arguments : List Term)
  | negate (term : Term)
  | operation (operator : Operator) (left right : Term)
  | within (item collection : Term)
  /-- Whether the collection has the item at the key. -/
  | withinAt (key item collection : Term)
  /-- The values of a term for all solutions of a query, in order. -/
  | arrayOf (item : Term) (query : List Literal)
  | setOf (item : Term) (query : List Literal)
  | objectOf (key value : Term) (query : List Literal)

inductive Literal where
  /-- The term has a value other than false. -/
  | holds (term : Term)
  /-- The term has no value, or the value false. -/
  | fails (term : Term)
  /-- The target is made of new names; they stand for the parts of the value. -/
  | assign (target term : Term)
  /-- Both terms have one value, and names without a value take theirs from it. -/
  | unify (left right : Term)
  | declare (names : List String)
  /-- The collection has the item at the key, for some values of their names. -/
  | choose (key item collection : Term)
  /-- The query has a solution for each item of the collection. -/
  | every (key item : String) (collection : Term) (query : List Literal)
  /-- The literal holds with another value at a path from the root. -/
  | changed (literal : Literal) (path : List String) (term : Term)

end

structure Clause where
  value : Term
  body : List Literal

structure DefinitionText where
  path : List String
  /-- The keys that are looked at when the rule is evaluated. -/
  keys : List Term
  parameters : Option (List Term)
  /-- Whether the values are members of a set. -/
  isMember : Bool
  clauses : List Clause

inductive RuleText where
  | default (path : List String) (value : Term)
  | definition (definition : DefinitionText)

structure Source where
  package : List String
  imports : List (String × List String)
  rules : List RuleText

mutual

/-- The terms that two terms have at the same places: if both are arrays of one length,
those of their items, and else the two themselves. -/
def Term.pairs : Term → Term → List (Term × Term)
  | .array lefts, .array rights =>
      if lefts.length = rights.length then itemPairs lefts rights
      else [(.array lefts, .array rights)]
  | left, right => [(left, right)]

def itemPairs : List Term → List Term → List (Term × Term)
  | left :: lefts, right :: rights => left.pairs right ++ itemPairs lefts rights
  | _, _ => []

end

namespace Literal

/-- The literals that a literal stands for: arrays of one length are taken apart. -/
def split : Literal → List Literal
  | assign target term => (target.pairs term).map fun (target, term) => .assign target term
  | unify left right => (left.pairs right).map fun (left, right) => .unify left right
  | literal => [literal]

end Literal

mutual

/-- Whether a term is written out as a value, or collects what it finds. -/
def Term.isConstant : Term → Bool
  | .constant _ => true
  | .array items => termsAreConstant items
  | .set items => termsAreConstant items
  | .object members => memberTermsAreConstant members
  | .arrayOf _ _ => true
  | .setOf _ _ => true
  | .objectOf _ _ _ => true
  | _ => false

def termsAreConstant : List Term → Bool
  | [] => true
  | term :: rest => term.isConstant && termsAreConstant rest

def memberTermsAreConstant : List (Term × Term) → Bool
  | [] => true
  | (key, value) :: rest => key.isConstant && value.isConstant && memberTermsAreConstant rest

end

mutual

def Term.names : Term → List String
  | .constant _ => []
  | .path name _ => [name]
  | .index base place => base.names ++ place.names
  | .array items => termsNames items
  | .set items => termsNames items
  | .object members => memberTermsNames members
  | .call _ arguments => termsNames arguments
  | .negate term => term.names
  | .operation _ left right => left.names ++ right.names
  | .within item collection => item.names ++ collection.names
  | .withinAt key item collection => key.names ++ item.names ++ collection.names
  | .arrayOf _ _ => []
  | .setOf _ _ => []
  | .objectOf _ _ _ => []

def termsNames : List Term → List String
  | [] => []
  | term :: rest => term.names ++ termsNames rest

def memberTermsNames : List (Term × Term) → List String
  | [] => []
  | (key, value) :: rest => key.names ++ value.names ++ memberTermsNames rest

end

mutual

/-- The names that a target gives new meanings: those that stand alone in it. -/
def Term.targets : Term → List String
  | .path name [] => [name]
  | .array items => termsTargets items
  | .object members => memberTermsTargets members
  | _ => []

def termsTargets : List Term → List String
  | [] => []
  | term :: rest => term.targets ++ termsTargets rest

def memberTermsTargets : List (Term × Term) → List String
  | [] => []
  | (_, value) :: rest => value.targets ++ memberTermsTargets rest

end

namespace Literal

def declared : Literal → List String
  | holds _ => []
  | fails _ => []
  | assign target _ => target.targets
  | unify _ _ => []
  | declare names => names
  | choose key item _ => key.targets ++ item.targets
  | every _ _ _ _ => []
  | changed literal _ _ => literal.declared

/-- The names that a literal uses, apart from those in queries of its own and those
that it gives a new meaning. -/
def used : Literal → List String
  | holds term => term.names
  | fails term => term.names
  | assign _ term => term.names
  | unify left right => left.names ++ right.names
  | declare _ => []
  | choose _ _ collection => collection.names
  | every _ _ collection _ => collection.names
  | changed literal _ term => literal.used ++ term.names

end Literal

end Turnstile.Policy
