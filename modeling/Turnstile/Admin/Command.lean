import Turnstile.Policy.Rule
import Turnstile.Role
import Turnstile.Settings
set_option autoImplicit false

/-! The command line of operators. Options come with a value, either behind an equals
sign or as the next argument. What is not given there is taken from a variable,
even an empty one, or else is a default. -/

namespace Turnstile.Admin

inductive Task where
  | token (kid subject issuer : String) (audience : Option String) (roles : List Role)
      (lifetimeSeconds : Nat)
  | publicKey (kid : String)
  /-- Check a credential and a rule for its bearer. -/
  | check (token : String) (rule : AccessRule) (audience : Option String)
  deriving DecidableEq, Repr

structure Command where
  keysDirectory : String
  task : Task
  deriving DecidableEq, Repr

inductive Stop where
  | usage
  | help
  deriving DecidableEq, Repr

namespace Stop

def code : Stop → Nat
  | usage => 2
  | help => 0

end Stop

def defaultIssuer : String := "service project"
def defaultLifetimeSeconds : Nat := 3600

inductive TaskName where
  | token
  | publicKey
  | check
  deriving DecidableEq, Repr

namespace TaskName

def ofText? (text : String) : Option TaskName :=
  if text = "token" then some token
  else if text = "public-key" then some publicKey
  else if text = "check" then some check
  else none

def options : TaskName → List String
  | token => ["sub", "roles", "kid", "issuer", "audience", "ttl-secs"]
  | publicKey => ["kid"]
  | check => ["token", "rule", "audience"]

end TaskName

def variableNames : List String :=
  ["KEYS_DIR", "ACTIVE_KID", "AUTH_ISSUER", "AUTH_AUDIENCE", "TOKEN_TTL_SECS"]

def usage : String :=
  "\n".intercalate
    ["usage: token --sub SUBJECT [--roles ROLES] [--kid KID] [--issuer ISSUER]",
      "             [--audience AUDIENCE] [--ttl-secs SECONDS]",
      "       public-key [--kid KID]",
      "       check --token TOKEN [--rule RULE] [--audience AUDIENCE]",
      "all with [--keys-dir DIRECTORY]", ""]

def keysOption : String := "keys-dir"

def repeatable : String := "roles"

abbrev Given := List (String × String)

def optionOf? (argument : String) : Option (String × Option String) :=
  match argument.toList with
  | '-' :: '-' :: first :: rest =>
      let name := (first :: rest).takeWhile (· ≠ '=')
      match (first :: rest).dropWhile (· ≠ '=') with
      | _ :: value => some (String.ofList name, some (String.ofList value))
      | [] => some (String.ofList name, none)
  | _ => none

def isValue (argument : String) : Bool :=
  match argument.toList with
  | '-' :: _ :: _ => false
  | _ => true

def asksForHelp (argument : String) : Bool := argument == "-h" || argument == "--help"

def asksForVersion (argument : String) : Bool := argument == "-V" || argument == "--version"

def readRoles (text : String) : Except InvalidRole (List Role) :=
  Role.ofNames ((Text.splitOn ',' text.toList).map String.ofList)

def readLifetime? (text : String) : Option Nat :=
  match Count.read Count.largest64 text.toList with
  | .ok seconds => if seconds = 0 then none else some seconds
  | .error _ => none

def accepts (name value : String) : Bool :=
  if name = keysOption then value ≠ ""
  else if name = "roles" then (readRoles value).isOk
  else if name = "ttl-secs" then (readLifetime? value).isSome
  else if name = "rule" then (AccessRule.ofName value).isOk
  else true

def give (known : List String) (given : Given) (name value : String) : Except Stop Given :=
  if !known.contains name then .error .usage
  else if given.any (·.1 == name) && name != repeatable then .error .usage
  else if !accepts name value then .error .usage
  else .ok (given ++ [(name, value)])

def readOptions (known : List String) : Given → List String → Except Stop Given
  | given, [] => .ok given
  | given, argument :: rest =>
      if asksForHelp argument then .error .help
      else if argument = "--" then if rest.isEmpty then .ok given else .error .usage
      else match optionOf? argument with
        | none => .error .usage
        | some (name, some value) =>
            match give known given name value with
            | .error stop => .error stop
            | .ok given => readOptions known given rest
        | some (name, none) =>
            match rest with
            | [] => .error .usage
            | value :: rest =>
                if !known.contains name || !isValue value then .error .usage
                else match give known given name value with
                  | .error stop => .error stop
                  | .ok given => readOptions known given rest

def readTask : Given → List String → Except Stop (Given × TaskName × List String)
  | _, [] => .error .usage
  | given, argument :: rest =>
      if asksForHelp argument || asksForVersion argument then .error .help
      else if argument = "help" then
        .error (if rest.all fun text => (TaskName.ofText? text).isSome then .help else .usage)
      else match TaskName.ofText? argument, optionOf? argument with
        | some task, _ => .ok (given, task, rest)
        | none, some (name, some value) =>
            match give [keysOption] given name value with
            | .error stop => .error stop
            | .ok given => readTask given rest
        | none, some (name, none) =>
            match rest with
            | [] => .error .usage
            | value :: rest =>
                if !isValue value then .error .usage
                else match give [keysOption] given name value with
                  | .error stop => .error stop
                  | .ok given => readTask given rest
        | none, none => .error .usage

structure Source where
  given : Given
  environment : Environment

namespace Source

def value? (source : Source) (option variableName : String) : Except Stop (Option String) :=
  match source.given.lookup option with
  | some value => .ok (some value)
  | none =>
      match source.environment variableName with
      | some value => if accepts option value then .ok (some value) else .error .usage
      | none => .ok none

def required (source : Source) (option : String) : Except Stop String :=
  match source.given.lookup option with
  | some value => .ok value
  | none => .error .usage

def roles (source : Source) : List Role :=
  (source.given.filter (·.1 == repeatable)).flatMap fun given =>
    (readRoles given.2).toOption.getD []

def kid (source : Source) : Except Stop String := do
  return (← source.value? "kid" "ACTIVE_KID").getD Settings.defaultActiveKid

def audience (source : Source) : Except Stop (Option String) :=
  source.value? "audience" "AUTH_AUDIENCE"

def task (source : Source) : TaskName → Except Stop Task
  | .token => do
      let subject ← source.required "sub"
      let kid ← source.kid
      let issuer ← source.value? "issuer" "AUTH_ISSUER"
      let audience ← source.audience
      let lifetime ← source.value? "ttl-secs" "TOKEN_TTL_SECS"
      return .token kid subject (issuer.getD defaultIssuer) audience source.roles
        ((lifetime.bind readLifetime?).getD defaultLifetimeSeconds)
  | .publicKey => do return .publicKey (← source.kid)
  | .check => do
      let token ← source.required "token"
      let audience ← source.audience
      let rule := (source.given.lookup "rule").bind fun name => (AccessRule.ofName name).toOption
      return .check token (rule.getD .any) audience

end Source

namespace Command

/-- The command of arguments. The directory of the keys may be given in front of the
task or behind it, and the latter counts. -/
def parse (arguments : List String) (environment : Environment) : Except Stop Command := do
  let (before, name, rest) ← readTask [] arguments
  let behind ← readOptions (keysOption :: name.options) [] rest
  let source : Source := ⟨behind ++ before, environment⟩
  let keysDirectory ← source.value? keysOption "KEYS_DIR"
  let task ← source.task name
  return ⟨keysDirectory.getD Settings.defaultKeysDirectory, task⟩

end Command

end Turnstile.Admin
