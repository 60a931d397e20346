import Turnstile.Policy.Syntax
set_option autoImplicit false

/-! Policies in the form in which they are evaluated. Every name is known to be local or
to lead from the root; the statements of a body stand in an order in which each
needs only what those before it have found. -/

namespace Turnstile.Policy

mutual

/-- What has at most one value, given those of the local names. -/
inductive Expr where
  | constant (value : Value)
  | input
  | name (text : String)
  /-- What stands at a path from the root of all packages. -/
  | document (path : List String)
  | index (base place : Expr)
  | array (items : List Expr)
  | set (items : List Expr)
  | object (members : List (Expr × Expr))
  | call (function : String) (arguments : List Expr)
  | apply (path : List String) (arguments : List Expr)
  | negate (expr : Expr)
  | operation (operator : Operator) (left right : Expr)
  | within (item collection : Expr)
  | withinAt (key item collection : Expr)
  /-- The values of an expression for all solutions of a body. -/
  | arrayOf (body : List Statement) (item : Expr)
  | setOf (body : List Statement) (item : Expr)
  | objectOf (body : List Statement) (key value : Expr)

inductive Pattern where
  | name (text : String)
  | value (expr : Expr)
  | array (items : List Pattern)
  | object (members : List (Expr × Pattern))

/-- A step of a body. It finds values for names, in several ways or in none. -/
inductive Statement where
  /-- The expression has a value other than false. -/
  | holds (expr : Expr)
  | fails (body : List Statement)
  /-- The value of the expression has the form of the pattern. -/
  | bind (pattern : Pattern) (expr : Expr)
  /-- The collection has a key of the form of the pattern. -/
  | visit (key : Pattern) (collection : Expr)
  /-- The collection has an item at a key, both of the form of the patterns. -/
  | choose (key item : Pattern) (collection : Expr)
  /-- The body has a solution for each item of the collection. -/
  | every (key item : String) (collection : Expr) (body : List Statement)
  /-- The body has a solution with another value at a path from the root. -/
  | changed (path : List String) (expr : Expr) (body : List Statement)

end

/-- One way for a rule to have values. -/
structure Branch where
  body : List Statement
  /-- The keys at which the value stands in the value of the rule. -/
  keys : List Expr
  value : Expr

structure Definition where
  parameters : List Pattern
  branches : List Branch

/-- What becomes of the values of a rule. -/
inductive RuleKind where
  | single
  | entries
  | members
  /-- There is a value for each list of arguments. -/
  | function
  deriving DecidableEq, Repr

structure RuleGroup where
  path : List String
  kind : RuleKind
  default : Option Expr
  definitions : List Definition

structure Module where
  package : List String
  rules : List RuleGroup

end Turnstile.Policy
