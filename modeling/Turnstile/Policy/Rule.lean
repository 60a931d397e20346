import Turnstile.Text.Quoted
set_option autoImplicit false

/-! The access rules that routes and operators name, and the policy rules that
decide them. -/

namespace Turnstile

inductive AccessRule where
  | any
  | adminOnly
  | userOnly
  /-- Administrators, and users acting on their own subject. -/
  | adminOrSubject
  deriving DecidableEq, Repr

structure UnknownAccessRule where
  text : String
  deriving DecidableEq, Repr

namespace UnknownAccessRule

def message (unknown : UnknownAccessRule) : String :=
  "unknown authorization rule " ++ Text.quoted unknown.text

end UnknownAccessRule

namespace AccessRule

def all : List AccessRule := [any, adminOnly, userOnly, adminOrSubject]

def name : AccessRule → String
  | any => "any"
  | adminOnly => "admin-only"
  | userOnly => "user-only"
  | adminOrSubject => "admin-or-subject"

def policyRule : AccessRule → String
  | any => "rule_any"
  | adminOnly => "rule_admin_only"
  | userOnly => "rule_user_only"
  | adminOrSubject => "rule_admin_or_subject"

def ofName (text : String) : Except UnknownAccessRule AccessRule :=
  match all.find? fun rule => rule.name = text with
  | some rule => .ok rule
  | none => .error ⟨text⟩

end AccessRule

end Turnstile
