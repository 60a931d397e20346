import Turnstile.Net.SocketAddress
import Turnstile.Number.Count
import Turnstile.Text.Blank
set_option autoImplicit false

/-! The settings of a service, read from named variables. A variable that is missing
or blank gives the default. Any other value is used or refused, and the first
one refused is the error. -/

namespace Turnstile

inductive LogFormat where
  | pretty
  | json
  deriving DecidableEq, Repr

namespace LogFormat

/-- The format of a name in letters of either case, or why there is none. -/
def ofName (text : String) : Except String LogFormat :=
  let name := text.map Char.toLower
  if name = "pretty" then .ok pretty
  else if name = "json" then .ok json
  else .error ("expected 'json' or 'pretty', got " ++ Text.quoted name)

end LogFormat

structure SettingError where
  name : String
  value : String
  reason : String
  deriving DecidableEq, Repr

namespace SettingError

def message (error : SettingError) : String :=
  error.name ++ "=" ++ Text.quoted error.value ++ " is invalid: " ++ error.reason

end SettingError

structure Settings where
  bind : Net.SocketAddress
  keysDirectory : String
  activeKid : String
  /-- The audience that credentials must name, if any. -/
  audience : Option String
  /-- Milliseconds that one evaluation of a policy may take, if bounded. -/
  policyTimeout : Option Nat
  /-- Seconds that requests may take to end at shutdown. -/
  shutdownTimeout : Nat
  logFormat : LogFormat
  deriving DecidableEq, Repr

abbrev Environment := String → Option String

namespace Environment

def value? (environment : Environment) (name : String) : Option String :=
  (environment name).filter fun value => Text.trim value ≠ ""

def read {Result : Type} (environment : Environment) (name : String) (default : Result)
    (parse : String → Except String Result) : Except SettingError Result :=
  match environment.value? name with
  | none => .ok default
  | some value =>
      match parse (Text.trim value) with
      | .ok result => .ok result
      | .error reason => .error ⟨name, value, reason⟩

end Environment

namespace Settings

def defaultHost : String := "0.0.0.0"
def defaultPort : Nat := 8080
def defaultKeysDirectory : String := "keys"
def defaultActiveKid : String := "private"
def defaultPolicyTimeout : Nat := 250
def defaultShutdownTimeout : Nat := 10

def readCount (bound : Nat) (text : String) : Except String Nat :=
  match Count.read bound text.toList with
  | .ok count => .ok count
  | .error fault => .error fault.message

def readBind (host : String) (port : Nat) : Except SettingError Net.SocketAddress :=
  match Net.SocketAddress.parse? (host ++ ":" ++ toString port) with
  | some address => .ok address
  | none => .error ⟨"HOST", host, "invalid socket address syntax"⟩

def load (environment : Environment) : Except SettingError Settings := do
  let port ← environment.read "PORT" defaultPort (readCount Count.largest16)
  let bind ← readBind ((environment.value? "HOST").getD defaultHost) port
  let policyTimeout ←
    environment.read "POLICY_TIMEOUT_MS" defaultPolicyTimeout (readCount Count.largest64)
  let shutdownTimeout ←
    environment.read "SHUTDOWN_TIMEOUT_SECS" defaultShutdownTimeout (readCount Count.largest64)
  let logFormat ← environment.read "LOG_FORMAT" LogFormat.pretty LogFormat.ofName
  return {
    bind := bind
    keysDirectory := (environment.value? "KEYS_DIR").getD defaultKeysDirectory
    activeKid := (environment.value? "ACTIVE_KID").getD defaultActiveKid
    audience := environment.value? "AUTH_AUDIENCE"
    policyTimeout := if policyTimeout = 0 then none else some policyTimeout
    shutdownTimeout := shutdownTimeout
    logFormat := logFormat }

end Settings

end Turnstile
