import Turnstile.Credential.Issue
import Turnstile.Service
import Turnstile.Settings
set_option autoImplicit false

/-! Starting up. Whatever is wrong with the settings or the keys stops the program
before it serves anyone, and the last line of its log tells why. -/

namespace Turnstile

inductive StartupError where
  | settings (error : SettingError)
  | keys (error : KeyError)
  | policy (error : Policy.Error)
  | issue (error : IssueError)
  /-- The key that must be loaded is not. -/
  | activeKey (kid : String)
  | system (context reason : String)
  deriving DecidableEq, Repr

namespace StartupError

def message : StartupError → String
  | settings error => "configuration: " ++ error.message
  | keys error => "key store: " ++ error.message
  | policy error => "policy: " ++ error.message
  | issue error => "issuing credential: " ++ error.message
  | activeKey kid => "active key " ++ Text.quoted kid ++ " is not loaded"
  | system context reason => context ++ ": " ++ reason

end StartupError

abbrev Directories := String → Directory

def loadKeys (directories : Directories) (path : String) : Except StartupError KeyStore :=
  match KeyStore.ofDirectory path (directories path) with
  | .ok keys => .ok keys
  | .error error => .error (.keys error)

def Service.start (settings : Settings) (directories : Directories) :
    Except StartupError Service := do
  let keys ← loadKeys directories settings.keysDirectory
  if !keys.contains settings.activeKid then throw (.activeKey settings.activeKid)
  return {
    access := ⟨⟨keys, 0, settings.audience⟩, Policy.Engine.embedded⟩
    policyTimeout := settings.policyTimeout }

structure LogLine where
  message : String
  error : String
  deriving DecidableEq, Repr

namespace LogLine

def pretty (line : LogLine) : String :=
  "ERROR authgate: " ++ line.message ++ " error=" ++ line.error

def toJson (line : LogLine) : Json :=
  .object [("level", .string "ERROR"),
    ("fields", .object [("error", .string line.error), ("message", .string line.message)])]

end LogLine

structure FailedStart where
  format : LogFormat
  line : LogLine
  deriving DecidableEq, Repr

/-- Start the service that an environment asks for. Before the settings are known the
log is for people. -/
def Service.boot (environment : Environment) (directories : Directories) :
    Except FailedStart Service :=
  match Settings.load environment with
  | .error error => .error ⟨.pretty, "Invalid configuration", error.message⟩
  | .ok settings =>
      match Service.start settings directories with
      | .error error => .error ⟨settings.logFormat, "Server failed", error.message⟩
      | .ok service => .ok service

end Turnstile
