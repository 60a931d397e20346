import Turnstile.Settings
import Turnstile.Proofs.Net.SocketAddress
import Turnstile.Proofs.Number.Count
import Turnstile.Proofs.Text.Trim
set_option autoImplicit false

/-! Settings are what the variables say. A default stands in for a variable that is unset and for
no other: a value that cannot be read is an error, and the first such variable is named in it. -/

namespace Turnstile

/-! ### Variables -/

namespace Environment

section

variable {Result : Type} {environment : Environment} {name : String} {default : Result}
  {Writes : String → Result → Prop} {result : Result}

/-- The variable is missing, or has nothing but blanks in it. -/
def Unset (environment : Environment) (name : String) : Prop :=
  ∀ value ∈ environment name, ∀ char ∈ value.toList, Text.isBlank char = true

/-- The variable has this value, and something in it is no blank. -/
def Sets (environment : Environment) (name value : String) : Prop :=
  environment name = some value ∧ ∃ char ∈ value.toList, Text.isBlank char = false

/-- What a variable stands for: the default if it is unset, or what its value writes. -/
inductive Decides (environment : Environment) (name : String) (default : Result)
    (Writes : String → Result → Prop) : Result → Prop
  | unset : environment.Unset name → Decides environment name default Writes default
  | set {value : String} {result : Result} : environment.Sets name value → Writes value result →
      Decides environment name default Writes result

theorem value?_eq_some_iff {value : String} :
    environment.value? name = some value ↔ environment.Sets name value := by
  rw [value?, Option.filter_eq_some_iff, Sets, decide_eq_true_eq, ne_eq, Text.trim_eq_empty_iff]
  simp

theorem value?_eq_none_iff : environment.value? name = none ↔ environment.Unset name := by
  rw [value?, Option.filter_eq_none_iff, Unset]
  simp only [decide_eq_true_eq, ne_eq, not_not, Text.trim_eq_empty_iff, Option.mem_def]

theorem decides_of_none (missing : environment.value? name = none) :
    environment.Decides name default Writes result ↔ result = default := by
  constructor
  · rintro (_ | ⟨set, _⟩)
    · rfl
    · cases missing.symm.trans (value?_eq_some_iff.mpr set)
  · rintro rfl
    exact .unset (value?_eq_none_iff.mp missing)

theorem decides_of_some {value : String} (found : environment.value? name = some value) :
    environment.Decides name default Writes result ↔ Writes value result := by
  constructor
  · rintro (unset | ⟨set, writes⟩)
    · cases found.symm.trans (value?_eq_none_iff.mpr unset)
    · cases found.symm.trans (value?_eq_some_iff.mpr set)
      exact writes
  · exact .set (value?_eq_some_iff.mp found)

theorem getD_eq_iff {default text : String} :
    (environment.value? name).getD default = text ↔
      environment.Decides name default Eq text := by
  cases found : environment.value? name with
  | none => rw [decides_of_none found, Option.getD_none, eq_comm]
  | some value => rw [decides_of_some found, Option.getD_some]

theorem value?_eq_iff {text : Option String} :
    environment.value? name = text ↔
      environment.Decides name none (fun value text => some value = text) text := by
  cases found : environment.value? name with
  | none => rw [decides_of_none found, eq_comm]
  | some value => rw [decides_of_some found]

theorem read_eq_ok_iff {parse : String → Except String Result}
    (reads : ∀ value result, parse (Text.trim value) = .ok result ↔ Writes value result) :
    environment.read name default parse = .ok result ↔
      environment.Decides name default Writes result := by
  rw [read]
  cases found : environment.value? name with
  | none => rw [decides_of_none found, Except.ok.injEq, eq_comm]
  | some value =>
      rw [decides_of_some found, ← reads]
      dsimp only
      cases parse (Text.trim value) <;> simp

theorem named_of_read {parse : String → Except String Result} {error : SettingError}
    (failure : environment.read name default parse = .error error) :
    error.name = name ∧ environment.Sets name error.value := by
  rw [read] at failure
  cases found : environment.value? name with
  | none => simp [found] at failure
  | some value =>
      rw [found] at failure
      dsimp only at failure
      split at failure
      · cases failure
      · cases failure
        exact ⟨rfl, value?_eq_some_iff.mp found⟩

theorem value?_congr {other : Environment} (same : other name = environment name) :
    other.value? name = environment.value? name := by
  rw [value?, value?, same]

end

end Environment

/-! ### Values -/

namespace LogFormat

def name : LogFormat → String
  | pretty => "pretty"
  | json => "json"

theorem ofName_eq_ok_iff {text : String} {format : LogFormat} :
    ofName text = .ok format ↔ text.map Char.toLower = format.name := by
  unfold ofName
  dsimp only
  split
  case isTrue pretty =>
      rw [pretty]
      cases format <;> decide
  case isFalse notPretty =>
      split
      case isTrue json =>
          rw [json]
          cases format <;> decide
      case isFalse notJson => cases format <;> simpa

end LogFormat

namespace Settings

/-- A value that writes a count of at most a bound, with blanks at its ends or without. -/
def WritesCount (bound : Nat) (value : String) (count : Nat) : Prop :=
  Count.Writes (Text.trim value).toList count ∧ count ≤ bound

/-- A value that names a format, in letters of either case. -/
def WritesFormat (value : String) (format : LogFormat) : Prop :=
  (Text.trim value).map Char.toLower = format.name

theorem readCount_eq_ok_iff (bound : Nat) (value : String) (count : Nat) :
    readCount bound (Text.trim value) = .ok count ↔ WritesCount bound value count := by
  rw [WritesCount, ← Count.read_eq_ok_iff, readCount]
  cases Count.read bound (Text.trim value).toList <;> simp

theorem readFormat_eq_ok_iff (value : String) (format : LogFormat) :
    LogFormat.ofName (Text.trim value) = .ok format ↔ WritesFormat value format :=
  LogFormat.ofName_eq_ok_iff

theorem readBind_eq_ok_iff {host : String} {port : Nat} {address : Net.SocketAddress} :
    readBind host port = .ok address ↔
      Net.SocketAddress.parse? (host ++ ":" ++ toString port) = some address := by
  unfold readBind
  cases Net.SocketAddress.parse? (host ++ ":" ++ toString port) <;> simp

theorem bound_eq_iff {count : Nat} {bound : Option Nat} :
    (if count = 0 then none else some count) = bound ↔ bound.getD 0 = count ∧ bound ≠ some 0 := by
  cases bound with
  | none => simp [eq_comm]
  | some limit =>
      simp only [Option.ite_none_left_eq_some, Option.some.injEq, Option.getD_some, ne_eq]
      omega

/-! ### Settings -/

/-- Every field has what its variable stands for. The port is never the host's. -/
structure Reflects (settings : Settings) (environment : Environment) : Prop where
  port : environment.Decides "PORT" defaultPort (WritesCount Count.largest16)
    settings.bind.port.toNat
  bind : ∃ host, environment.Decides "HOST" defaultHost Eq host ∧
    Net.SocketAddress.parse? (host ++ ":" ++ toString settings.bind.port.toNat) =
      some settings.bind
  keysDirectory : environment.Decides "KEYS_DIR" defaultKeysDirectory Eq settings.keysDirectory
  activeKid : environment.Decides "ACTIVE_KID" defaultActiveKid Eq settings.activeKid
  audience : environment.Decides "AUTH_AUDIENCE" none (fun value audience => some value = audience)
    settings.audience
  policyTimeout : environment.Decides "POLICY_TIMEOUT_MS" defaultPolicyTimeout
    (WritesCount Count.largest64) (settings.policyTimeout.getD 0)
  /-- An evaluation without a bound is written as zero, and only so. -/
  bounded : settings.policyTimeout ≠ some 0
  shutdownTimeout : environment.Decides "SHUTDOWN_TIMEOUT_SECS" defaultShutdownTimeout
    (WritesCount Count.largest64) settings.shutdownTimeout
  logFormat : environment.Decides "LOG_FORMAT" .pretty WritesFormat settings.logFormat

/-- The variables whose values are checked. -/
inductive Checked where
  | port
  | host
  | policyTimeout
  | shutdownTimeout
  | logFormat
  deriving DecidableEq, Repr

namespace Checked

def name : Checked → String
  | port => "PORT"
  | host => "HOST"
  | policyTimeout => "POLICY_TIMEOUT_MS"
  | shutdownTimeout => "SHUTDOWN_TIMEOUT_SECS"
  | logFormat => "LOG_FORMAT"

def order : List Checked := [port, host, policyTimeout, shutdownTimeout, logFormat]

/-- The variables that are checked in front of this one. -/
def earlier (checked : Checked) : List Checked := order.takeWhile (· ≠ checked)

/-- The variable is unset or its value can be read. The host is read together with the port. -/
def Accepted (environment : Environment) : Checked → Prop
  | port => ∃ port, environment.Decides "PORT" defaultPort (WritesCount Count.largest16) port
  | host => ∃ port host address,
      environment.Decides "PORT" defaultPort (WritesCount Count.largest16) port ∧
        environment.Decides "HOST" defaultHost Eq host ∧
        Net.SocketAddress.parse? (host ++ ":" ++ toString port) = some address
  | policyTimeout => ∃ timeout, environment.Decides "POLICY_TIMEOUT_MS" defaultPolicyTimeout
      (WritesCount Count.largest64) timeout
  | shutdownTimeout => ∃ timeout, environment.Decides "SHUTDOWN_TIMEOUT_SECS"
      defaultShutdownTimeout (WritesCount Count.largest64) timeout
  | logFormat => ∃ format, environment.Decides "LOG_FORMAT" .pretty WritesFormat format

end Checked

/-- The variable that an error names is the first whose value is refused. -/
structure FirstRefused (environment : Environment) (error : SettingError) (checked : Checked) :
    Prop where
  name : error.name = checked.name
  value : environment.Sets checked.name error.value
  refused : ¬ checked.Accepted environment
  earlier : ∀ other ∈ checked.earlier, other.Accepted environment

/-- What can come of an environment: the settings that it stands for, or its first fault. -/
inductive Loads (environment : Environment) : Except SettingError Settings → Prop
  | reflected {settings : Settings} : settings.Reflects environment →
      Loads environment (.ok settings)
  | refused {error : SettingError} {checked : Checked} : FirstRefused environment error checked →
      Loads environment (.error error)

section

variable {environment : Environment}

theorem countRead_eq_ok_iff {name : String} {bound default count : Nat} :
    environment.read name default (readCount bound) = .ok count ↔
      environment.Decides name default (WritesCount bound) count :=
  Environment.read_eq_ok_iff (readCount_eq_ok_iff bound)

theorem port_le_largest16 {port : Nat}
    (decided : environment.Decides "PORT" defaultPort (WritesCount Count.largest16) port) :
    port ≤ Count.largest16 := by
  cases decided with
  | unset _ => decide
  | set _ writes => exact writes.2

/-- The default goes with every port, so that a host that is refused is set. -/
theorem named_of_readBind {port : Nat} {error : SettingError} (small : port ≤ Count.largest16)
    (failed : readBind ((environment.value? "HOST").getD defaultHost) port = .error error) :
    error.name = "HOST" ∧ environment.Sets "HOST" error.value := by
  unfold readBind at failed
  split at failed
  case h_1 => cases failed
  case h_2 unreadable =>
      cases failed
      refine ⟨rfl, ?_⟩
      cases found : environment.value? "HOST" with
      | none =>
          rw [found, Option.getD_none, defaultHost,
            Net.SocketAddress.parse?_allHosts small] at unreadable
          cases unreadable
      | some host => exact Environment.value?_eq_some_iff.mp found

theorem FirstRefused.of_read (checked : Checked) {Result : Type} {default : Result}
    {parse : String → Except String Result} {Writes : String → Result → Prop}
    {error : SettingError}
    (failed : environment.read checked.name default parse = .error error)
    (reads : ∀ value result, parse (Text.trim value) = .ok result ↔ Writes value result)
    (decided : checked.Accepted environment →
      ∃ result, environment.Decides checked.name default Writes result)
    (earlier : ∀ other ∈ checked.earlier, other.Accepted environment) :
    FirstRefused environment error checked where
  name := (Environment.named_of_read failed).1
  value := (Environment.named_of_read failed).2
  refused := fun accepted => by
    obtain ⟨result, decides⟩ := decided accepted
    cases failed.symm.trans ((Environment.read_eq_ok_iff reads).mpr decides)
  earlier := earlier

theorem FirstRefused.of_readBind {port : Nat} {error : SettingError}
    (portRead : environment.read "PORT" defaultPort (readCount Count.largest16) = .ok port)
    (failed : readBind ((environment.value? "HOST").getD defaultHost) port = .error error) :
    FirstRefused environment error .host := by
  have decided := countRead_eq_ok_iff.mp portRead
  obtain ⟨name, value⟩ := named_of_readBind (port_le_largest16 decided) failed
  refine ⟨name, value, ?_, List.forall_mem_singleton.mpr ⟨port, decided⟩⟩
  rintro ⟨otherPort, host, address, otherDecided, hostDecided, parsed⟩
  cases portRead.symm.trans (countRead_eq_ok_iff.mpr otherDecided)
  rw [Environment.getD_eq_iff.mpr hostDecided] at failed
  cases failed.symm.trans (readBind_eq_ok_iff.mpr parsed)

/-- What holds of the failures of a step and of all that follows on its successes, holds of the
two in a row. -/
theorem of_bind {First Second : Type} {P : Except SettingError Second → Prop}
    {step : Except SettingError First} {next : First → Except SettingError Second}
    (fails : ∀ error, step = .error error → P (.error error))
    (follows : ∀ value, step = .ok value → P (next value)) : P (step >>= next) := by
  cases step with
  | error error => exact fails error rfl
  | ok value => exact follows value rfl

theorem loads (environment : Environment) : Loads environment (load environment) := by
  have reads := readCount_eq_ok_iff Count.largest64
  unfold load
  refine of_bind (fun _ failed => .refused <| .of_read .port failed
    (readCount_eq_ok_iff Count.largest16) id nofun) fun port portRead => ?_
  have portDecided := countRead_eq_ok_iff.mp portRead
  have portAccepted : Checked.port.Accepted environment := ⟨port, portDecided⟩
  refine of_bind (fun _ failed => .refused (.of_readBind portRead failed)) fun bind bindRead => ?_
  have parsed := readBind_eq_ok_iff.mp bindRead
  have hostDecided := Environment.getD_eq_iff.mp
    (Eq.refl ((environment.value? "HOST").getD defaultHost))
  have hostAccepted : Checked.host.Accepted environment :=
    ⟨port, _, bind, portDecided, hostDecided, parsed⟩
  refine of_bind (fun _ failed => .refused <| .of_read .policyTimeout failed reads id
    (by simp [Checked.earlier, Checked.order, portAccepted, hostAccepted]))
    fun policyTimeout policyRead => ?_
  have policyDecided := countRead_eq_ok_iff.mp policyRead
  have policyAccepted : Checked.policyTimeout.Accepted environment := ⟨policyTimeout, policyDecided⟩
  refine of_bind (fun _ failed => .refused <| .of_read .shutdownTimeout failed reads id
    (by simp [Checked.earlier, Checked.order, portAccepted, hostAccepted, policyAccepted]))
    fun shutdownTimeout shutdownRead => ?_
  have shutdownDecided := countRead_eq_ok_iff.mp shutdownRead
  have shutdownAccepted : Checked.shutdownTimeout.Accepted environment :=
    ⟨shutdownTimeout, shutdownDecided⟩
  refine of_bind (fun _ failed => .refused <| .of_read .logFormat failed
    readFormat_eq_ok_iff id (by simp [Checked.earlier, Checked.order, portAccepted, hostAccepted,
      policyAccepted, shutdownAccepted])) fun logFormat formatRead => .reflected ?_
  have samePort := Net.SocketAddress.port_of_parse? parsed
  exact {
    port := samePort ▸ portDecided
    bind := ⟨_, hostDecided, samePort ▸ parsed⟩
    keysDirectory := Environment.getD_eq_iff.mp rfl
    activeKid := Environment.getD_eq_iff.mp rfl
    audience := Environment.value?_eq_iff.mp rfl
    policyTimeout := (bound_eq_iff.mp rfl).1.symm ▸ policyDecided
    bounded := (bound_eq_iff.mp rfl).2
    shutdownTimeout := shutdownDecided
    logFormat := (Environment.read_eq_ok_iff readFormat_eq_ok_iff).mp formatRead }

theorem Reflects.load_eq {settings : Settings} (reflects : settings.Reflects environment) :
    load environment = .ok settings := by
  obtain ⟨host, hostDecided, parsed⟩ := reflects.bind
  have host := Environment.getD_eq_iff.mpr hostDecided
  have port := countRead_eq_ok_iff.mpr reflects.port
  have bind := readBind_eq_ok_iff.mpr parsed
  have policyTimeout := countRead_eq_ok_iff.mpr reflects.policyTimeout
  have shutdownTimeout := countRead_eq_ok_iff.mpr reflects.shutdownTimeout
  have logFormat := (Environment.read_eq_ok_iff readFormat_eq_ok_iff).mpr reflects.logFormat
  have timeout := bound_eq_iff.mpr ⟨rfl, reflects.bounded⟩
  simp only [load, port, host, bind, policyTimeout, shutdownTimeout, logFormat, Bind.bind,
    Except.bind, timeout, Environment.getD_eq_iff.mpr reflects.keysDirectory,
    Environment.getD_eq_iff.mpr reflects.activeKid, Environment.value?_eq_iff.mpr reflects.audience]
  rfl

theorem Reflects.accepted {settings : Settings} (reflects : settings.Reflects environment)
    (checked : Checked) : checked.Accepted environment := by
  obtain ⟨host, hostDecided, parsed⟩ := reflects.bind
  cases checked with
  | port => exact ⟨_, reflects.port⟩
  | host => exact ⟨_, host, _, reflects.port, hostDecided, parsed⟩
  | policyTimeout => exact ⟨_, reflects.policyTimeout⟩
  | shutdownTimeout => exact ⟨_, reflects.shutdownTimeout⟩
  | logFormat => exact ⟨_, reflects.logFormat⟩

/-- The variables that settings are read from. -/
def variableNames : List String :=
  Checked.order.map Checked.name ++ ["KEYS_DIR", "ACTIVE_KID", "AUTH_AUDIENCE"]

theorem load_congr {other : Environment}
    (agrees : ∀ name ∈ variableNames, other name = environment name) :
    load other = load environment := by
  have same : ∀ name ∈ variableNames, other.value? name = environment.value? name :=
    fun name member => Environment.value?_congr (agrees name member)
  simp only [variableNames, Checked.order, Checked.name, List.map_cons, List.map_nil,
    List.cons_append, List.nil_append, List.forall_mem_cons] at same
  obtain ⟨port, host, policyTimeout, shutdownTimeout, logFormat, keysDirectory, activeKid, audience,
    -⟩ := same
  simp only [load, Environment.read, port, host, policyTimeout, shutdownTimeout, logFormat,
    keysDirectory, activeKid, audience]

end

/-- The settings are exactly what the variables stand for. There are some if and only if every
variable that is checked is accepted, and otherwise the first that is not is named. No other
variable counts. -/
theorem load_by_variables (environment : Environment) :
    (∀ settings, load environment = .ok settings ↔ settings.Reflects environment) ∧
      ((∃ settings, load environment = .ok settings) ↔
        ∀ checked : Checked, checked.Accepted environment) ∧
      (∀ error, load environment = .error error →
        ∃ checked, FirstRefused environment error checked) ∧
      ∀ other : Environment, (∀ name ∈ variableNames, other name = environment name) →
        load other = load environment := by
  have outcome := loads environment
  have reflected : ∀ settings, load environment = .ok settings ↔ settings.Reflects environment := by
    refine fun settings => ⟨fun loaded => ?_, Reflects.load_eq⟩
    rw [loaded] at outcome
    cases outcome with
    | reflected reflects => exact reflects
  have refused : ∀ error, load environment = .error error →
      ∃ checked, FirstRefused environment error checked := by
    intro error failed
    rw [failed] at outcome
    cases outcome with
    | refused first => exact ⟨_, first⟩
  refine ⟨reflected, ⟨?_, fun accepted => ?_⟩, refused, fun _ => load_congr⟩
  · rintro ⟨settings, loaded⟩
    exact ((reflected settings).mp loaded).accepted
  · cases result : load environment with
    | ok settings => exact ⟨settings, rfl⟩
    | error error =>
        obtain ⟨checked, first⟩ := refused error result
        exact absurd (accepted checked) first.refused

example :
    load (fun name => if name = "HOST" then some "[::1]:9" else none) =
      .error ⟨"HOST", "[::1]:9", "invalid socket address syntax"⟩ := by
  decide

end Settings

end Turnstile
