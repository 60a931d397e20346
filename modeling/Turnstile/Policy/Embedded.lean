import Turnstile.Policy.Query
import Turnstile.Policy.Same
set_option autoImplicit false

/-! The two policies that decide access unless others are given. The authentication
policy checks a credential once more, on its own, and trusts only some issuers;
the authorization policy has one rule for each access rule. Both are written out as
sources and as modules, and reading the sources gives the modules. -/

namespace Turnstile.Policy.Embedded

/-- The characters of lines that all end. -/
def charsOf (lines : List String) : List Char := lines.flatMap fun line => line.toList ++ ['\n']

def textOf (lines : List String) : String := String.ofList (charsOf lines)

/-- What lines with a package and a module are read as. -/
theorem parse_textOf {name package : String} {lines : List String} {module : Module}
    (packaged : ((Text.lines (charsOf lines)).findSome? NamedModule.packageOfLine?) =
      some package.toList)
    (linked : (Same.option Module.equal?
      (((Token.scan? (charsOf lines)).bind Source.ofTokens?).bind Source.link?)
      (some module)).isFound = true) :
    NamedModule.parse name (textOf lines) = .ok ⟨name, package, some module⟩ := by
  have found : NamedModule.packageOf? (textOf lines) = some package := by
    rw [NamedModule.packageOf?, textOf, String.toList_ofList, packaged, Option.map_some,
      String.ofList_toList]
  obtain ⟨source, parsed, linked⟩ := Option.bind_eq_some_iff.mp (Same.eq_of_isFound linked)
  rw [NamedModule.parse, found]
  simp only [Source.parse?, textOf, String.toList_ofList, parsed, linked]

def handedIn (name : String) : Expr := .index .input (.constant (.string name))

def ruleOf (name : String) (default : Option Expr) (definitions : List (List Statement × Expr)) :
    RuleGroup :=
  ⟨[name], .single, default, definitions.map fun (body, value) => ⟨[], [⟨body, [], value⟩]⟩⟩

def constantRule (name : String) (value : Expr) : RuleGroup := ruleOf name none [([], value)]

def flag (name : String) (bodies : List (List Statement)) : RuleGroup :=
  ruleOf name (some (.constant (.bool false)))
    (bodies.map fun body => (body, .constant (.bool true)))

def trustedIssuers : List String := ["service project"]

def authenticationLines : List String :=
  [
    "# Authentication policy.",
    "#",
    "# Input:",
    "#   Key    public key PEM of the key named by the credential's kid",
    "#   Token  the raw credential",
    "#   ISS    issuer claimed by the credential",
    "#   Time   evaluation time, nanoseconds since the epoch",
    "#",
    "# The credential is accepted only when its signature verifies under Key, it is",
    "# inside its validity window, and its issuer is one this service trusts.",
    "",
    "package authgate.authn",
    "",
    "import rego.v1",
    "",
    "trusted_issuers := \x7b\"service project\"\x7d",
    "",
    "default auth := false",
    "",
    "auth if \x7b",
    "\t[valid, _, _] := io.jwt.decode_verify(input.Token, \x7b",
    "\t\t\"cert\": input.Key,",
    "\t\t\"iss\": input.ISS,",
    "\t\t\"time\": input.Time,",
    "\t\x7d)",
    "\tvalid == true",
    "\tinput.ISS in trusted_issuers",
    "\x7d"]

def authenticationPackage : List String := ["authgate", "authn"]

/-- The condition that the token passes the check under the key, issuer and time
handed in. The header and the payload that the check gives out are not named, and go by
the number of tokens behind them. -/
def tokenPasses : List Statement :=
  [.bind (.array [.name "valid", .name (wildcard "" 44), .name (wildcard "" 42)])
      (.call "io.jwt.decode_verify"
        [handedIn "Token",
          .object [(.constant (.string "cert"), handedIn "Key"),
            (.constant (.string "iss"), handedIn "ISS"),
            (.constant (.string "time"), handedIn "Time")]]),
    .holds (.operation .equal (.name "valid") (.constant (.bool true)))]

def issuerIsTrusted : Statement :=
  .holds (.within (handedIn "ISS") (.document (authenticationPackage ++ ["trusted_issuers"])))

def authenticationModule : Module :=
  ⟨authenticationPackage,
    [constantRule "trusted_issuers"
        (.set (trustedIssuers.map fun issuer => .constant (.string issuer))),
      flag "auth" [tokenPasses ++ [issuerIsTrusted]]]⟩

def authentication : NamedModule where
  name := "authentication"
  package := "authgate.authn"
  module := some authenticationModule

/-- Reading the source of the authentication policy gives its module. -/
theorem parse_authenticationLines :
    NamedModule.parse "authentication" (textOf authenticationLines) = .ok authentication :=
  parse_textOf (by decide +kernel) (by decide +kernel)

def authorizationLines : List String :=
  [
    "# Authorization policy.",
    "#",
    "# Input:",
    "#   Roles    role names granted by the credential",
    "#   Subject  subject of the credential",
    "#   UserID   user the request acts on",
    "",
    "package authgate.authz",
    "",
    "import rego.v1",
    "",
    "role_admin := \"ADMIN\"",
    "",
    "role_user := \"USER\"",
    "",
    "default rule_any := false",
    "",
    "rule_any if \x7b",
    "\trole_admin in input.Roles",
    "\x7d",
    "",
    "rule_any if \x7b",
    "\trole_user in input.Roles",
    "\x7d",
    "",
    "default rule_admin_only := false",
    "",
    "rule_admin_only if \x7b",
    "\trole_admin in input.Roles",
    "\x7d",
    "",
    "default rule_user_only := false",
    "",
    "rule_user_only if \x7b",
    "\trole_user in input.Roles",
    "\x7d",
    "",
    "default rule_admin_or_subject := false",
    "",
    "rule_admin_or_subject if \x7b",
    "\trole_admin in input.Roles",
    "\x7d",
    "",
    "rule_admin_or_subject if \x7b",
    "\trole_user in input.Roles",
    "\tinput.UserID == input.Subject",
    "\x7d"]

def authorizationPackage : List String := ["authgate", "authz"]

def holdsRole (role : String) : Statement :=
  .holds (.within (.document (authorizationPackage ++ [role])) (handedIn "Roles"))

def actsOnSelf : Statement :=
  .holds (.operation .equal (handedIn "UserID") (handedIn "Subject"))

def authorizationModule : Module :=
  ⟨authorizationPackage,
    [constantRule "role_admin" (.constant (.string "ADMIN")),
      constantRule "role_user" (.constant (.string "USER")),
      flag "rule_any" [[holdsRole "role_admin"], [holdsRole "role_user"]],
      flag "rule_admin_only" [[holdsRole "role_admin"]],
      flag "rule_user_only" [[holdsRole "role_user"]],
      flag "rule_admin_or_subject"
        [[holdsRole "role_admin"], [holdsRole "role_user", actsOnSelf]]]⟩

def authorization : NamedModule where
  name := "authorization"
  package := "authgate.authz"
  module := some authorizationModule

/-- Reading the source of the authorization policy gives its module. -/
theorem parse_authorizationLines :
    NamedModule.parse "authorization" (textOf authorizationLines) = .ok authorization :=
  parse_textOf (by decide +kernel) (by decide +kernel)

end Turnstile.Policy.Embedded
