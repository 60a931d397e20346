import Turnstile.Admin.Command
import Turnstile.Startup
set_option autoImplicit false

/-! Running the tasks of operators. A credential that is not accepted and a rule that
does not allow its bearer have exit codes of their own. -/

namespace Turnstile.Admin

structure Report where
  code : Nat
  output : String
  diagnostics : String
  deriving DecidableEq, Repr

namespace Report

def success (output : String) : Report := ⟨0, output, ""⟩

def failure (code : Nat) (line : String) : Report := ⟨code, "", line ++ "\n"⟩

end Report

structure World where
  now : Instant
  tokenId : String
  directories : Directories

namespace World

def context (world : World) : Policy.Context := ⟨.live, .live, world.now.seconds⟩

end World

def issueToken (world : World) (keys : KeyStore) (request : CredentialRequest) :
    Except StartupError Report :=
  match keys.issue world.now world.tokenId request with
  | .ok token => .ok (.success (token ++ "\n"))
  | .error error => .error (.issue error)

def showKey (keys : KeyStore) (kid : String) : Except StartupError Report :=
  match keys.publicPem kid with
  | .ok text => .ok (.success text)
  | .error error => .error (.keys error)

def checkToken (world : World) (access : AccessControl) (token : String) (rule : AccessRule) :
    Report :=
  match access.authenticate world.context world.now token with
  | .error error => .failure 2 ("not authenticated: " ++ error.message)
  | .ok claims =>
      match access.authorize world.context claims rule with
      | .error error => .failure 3 ("not authorized: " ++ error.message)
      | .ok () => .success (claims.toJson.pretty ++ "\n")

namespace Task

def run (world : World) (keys : KeyStore) : Task → Except StartupError Report
  | .token kid subject issuer audience roles lifetimeSeconds =>
      issueToken world keys
        ⟨kid, subject, issuer, audience, roles, lifetimeSeconds * billion⟩
  | .publicKey kid => showKey keys kid
  | .check credential rule audience =>
      .ok (checkToken world ⟨⟨keys, 0, audience⟩, Policy.Engine.embedded⟩ credential rule)

end Task

namespace Command

def run (command : Command) (world : World) : Report :=
  match loadKeys world.directories command.keysDirectory >>= fun keys =>
      command.task.run world keys with
  | .ok report => report
  | .error error => .failure 1 ("error: " ++ error.message)

end Command

end Turnstile.Admin
