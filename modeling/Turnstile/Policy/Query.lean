import Turnstile.Policy.Decision
import Turnstile.Policy.Document
import Turnstile.Policy.Link.Module
import Turnstile.Policy.Source.Package
import Turnstile.Text.Blank
import Turnstile.Text.Line
set_option autoImplicit false

/-! Modules by name and queries for their rules. A query is a text that gives a name to
what stands at a path from the root of all packages; it is bound to a module once,
checked to have a value for an empty input, and evaluated for one input after the
other. -/

namespace Turnstile.Policy

/-- Named values handed to a policy, in the order of their names. -/
abbrev Input := List (String × Json)

namespace Input

def empty : Input := []

def insert (name : String) (value : Json) (input : Input) : Input :=
  Json.insertMember name value input

end Input

structure NamedModule where
  name : String
  package : String
  /-- The rules, unless some name in them has no meaning. -/
  module : Option Module

namespace NamedModule

def packageOfLine? (line : List Char) : Option (List Char) :=
  let start := "package ".toList
  let line := Text.trimChars line
  if start.isPrefixOf line then some (Text.trimChars (line.drop start.length)) else none

def packageOf? (source : String) : Option String :=
  ((Text.lines source.toList).findSome? packageOfLine?).map String.ofList

def parse (name source : String) : Except Error NamedModule :=
  match packageOf? source with
  | none => .error (.parse name "missing package declaration")
  | some package =>
      match Source.parse? source with
      | none => .error (.parse name Fault.engine.message)
      | some source => .ok ⟨name, package, source.link?⟩

def display (module : NamedModule) : String :=
  "PolicyModule \x7b name: " ++ Text.quoted module.name ++ ", package: " ++
    Text.quoted module.package ++ ", .. \x7d"

def queryText (module : NamedModule) (rule : String) : String :=
  resultBinding ++ " = data." ++ module.package ++ "." ++ rule

/-- What one solution binds: the names that are written in the query. -/
def bindings (locals : Locals) : Bindings :=
  Json.sortMembers ((locals.filter fun (name, _) => !isWildcard name).map
    fun (name, value) => (name, value.toJson))

def queryRows (module : NamedModule) (query : String) (now : Int) (input : Input) :
    Except Fault Rows :=
  match module.module, Value.enter? (.object input),
      (Literal.queryOf? query).bind Literal.linkAlone? with
  | some module, some input, some body =>
      (solveAll (module.wholeScope now input) body []).map fun solutions => solutions.map bindings
  | _, _, _ => .error .engine

end NamedModule

structure PreparedQuery where
  module : String
  query : String
  /-- The rows for an input, or in words what keeps the evaluation from them. Checks that
  name no time of their own are made for the given second. -/
  evaluate : (wallSeconds : Int) → Input → Except String Rows

namespace PreparedQuery

def ofRule (module : NamedModule) (rule : String) : PreparedQuery where
  module := module.name
  query := module.queryText rule
  evaluate := fun wallSeconds input =>
    (module.queryRows (module.queryText rule) wallSeconds input).mapError Fault.message

def run (prepared : PreparedQuery) (wallSeconds : Int) (input : Input) : Except Error Rows :=
  match prepared.evaluate wallSeconds input with
  | .ok rows => .ok rows
  | .error cause => .error (.eval (prepared.module ++ ": " ++ cause))

def hasResult (rows : Rows) : Bool :=
  rows.any fun bindings => (Json.lookup? resultBinding bindings).isSome

/-- Bind a rule of a module. A rule without a value for an empty input is unknown. -/
def prepare (wallSeconds : Int) (module : NamedModule) (rule : String) :
    Except Error PreparedQuery :=
  let prepared := ofRule module rule
  match prepared.run wallSeconds Input.empty with
  | .error error => .error error
  | .ok rows => if hasResult rows then .ok prepared else .error (.unknownRule prepared.query)

def display (prepared : PreparedQuery) : String :=
  "PreparedQuery \x7b module: " ++ Text.quoted prepared.module ++ ", query: " ++
    Text.quoted prepared.query ++ ", .. \x7d"

end PreparedQuery

inductive Standing where
  | live
  | cancelled
  /-- Past the deadline. -/
  | expired
  deriving DecidableEq, Repr

namespace Standing

def check : Standing → Except Error Unit
  | live => .ok ()
  | cancelled => .error .cancelled
  | expired => .error .deadlineExceeded

def of (isCancelled isExpired : Bool) : Standing :=
  if isCancelled then cancelled else if isExpired then expired else live

end Standing

structure Context where
  before : Standing
  after : Standing
  /-- The second on the wall clock, for checks that name no time of their own. -/
  wallSeconds : Int

namespace PreparedQuery

/-- Evaluate for an input. What is reached after the caller has given up is thrown
away. -/
def eval (prepared : PreparedQuery) (input : Input) (context : Context) : Except Error Rows :=
  match context.before.check with
  | .error error => .error error
  | .ok () =>
      match prepared.run context.wallSeconds input with
      | .error error => .error error
      | .ok rows =>
          match context.after.check with
          | .error error => .error error
          | .ok () => .ok rows

def decide (prepared : PreparedQuery) (input : Input) (context : Context) : Except Error Bool :=
  match prepared.eval input context with
  | .error error => .error error
  | .ok rows => rows.decision resultBinding

end PreparedQuery

end Turnstile.Policy
