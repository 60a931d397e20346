import Turnstile.Json.Printer
set_option autoImplicit false

/-! Decisions out of evaluated queries. A query yields rows of bindings; it
decides only if it yields exactly one row that binds a boolean, or none at all,
which denies. -/

namespace Turnstile.Policy

inductive Error where
  /-- The source of a module is not understood. -/
  | parse (module message : String)
  | unknownRule (query : String)
  | eval (message : String)
  /-- The evaluation yields something else than one boolean. -/
  | decision (message : String)
  | cancelled
  | deadlineExceeded
  deriving DecidableEq, Repr

namespace Error

def message : Error → String
  | parse module message => "policy " ++ module ++ ": " ++ message
  | unknownRule query => "query " ++ Text.quoted query ++ " names an unknown rule"
  | eval message => "evaluation failed: " ++ message
  | decision message => "failed to produce a usable decision: " ++ message
  | cancelled => "evaluation cancelled"
  | deadlineExceeded => "evaluation deadline exceeded"

end Error

abbrev Bindings := List (String × Json)

abbrev Rows := List Bindings

def resultBinding : String := "x"

def Rows.decision (rows : Rows) (binding : String) : Except Error Bool :=
  match rows with
  | [] => .ok false
  | [only] =>
      match Json.lookup? binding only with
      | some (.bool allowed) => .ok allowed
      | some other => .error (.decision
          ("binding " ++ Text.quoted binding ++ " is " ++ other.compact ++ ", not a boolean"))
      | none => .error (.decision ("binding " ++ Text.quoted binding ++ " is missing"))
  | many => .error (.decision ("expected one result, got " ++ toString many.length))

end Turnstile.Policy
