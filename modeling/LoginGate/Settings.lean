import LoginGate.Gate
import LoginGate.Registry
import LoginGate.RuleStore
import LoginGate.Text.Fields

/-! # Settings and the daemon

The daemon is a gate made from settings. Settings say which limits apply, where the service listens
and where rules are stored. Limits that are not positive are replaced by defaults; each replacement
is noted, and it makes no difference to the gate whether it has been done
(`LimitSettings.attemptLimits`, `LimitSettings.span`).
-/

namespace LoginGate

/-- Why settings cannot be used. -/
inductive SettingsFault where
  /-- They cannot be read. -/
  | unavailable
  /-- They are not TOML, or not the settings that are expected. -/
  | unreadable
  /-- They contradict each other. -/
  | invalid (reason : String)
  deriving DecidableEq, Repr

/-! ## Limits -/

/-- The four limits that can be set. -/
inductive LimitField where
  | login
  | password
  | address
  | window
  deriving DecidableEq, Repr

namespace LimitField

def all : List LimitField :=
  [login, password, address, window]

def name : LimitField → String
  | login => "login_per_window"
  | password => "password_per_window"
  | address => "ip_per_window"
  | window => "base_window_ms"

def fallback : LimitField → Nat
  | login => 10
  | password => 100
  | address => 1000
  | window => 60000

theorem fallback_pos (field : LimitField) : 0 < field.fallback := by
  cases field <;> decide

/-- The note on a limit with a value that is not positive. -/
def note (field : LimitField) (value : Int) : String :=
  s!"limits.{field.name} is {value}, using default {field.fallback}"

end LimitField

/-- The limits as they are set, the window in milliseconds. -/
structure LimitSettings where
  login : Int := 0
  password : Int := 0
  address : Int := 0
  window : Int := 0
  deriving DecidableEq, Repr

namespace LimitSettings

def get (limits : LimitSettings) : LimitField → Int
  | .login => limits.login
  | .password => limits.password
  | .address => limits.address
  | .window => limits.window

def set (limits : LimitSettings) (field : LimitField) (value : Int) : LimitSettings :=
  match field with
  | .login => { limits with login := value }
  | .password => { limits with password := value }
  | .address => { limits with address := value }
  | .window => { limits with window := value }

/-- A limit as a positive number, or its default if it is none. -/
def effective (limits : LimitSettings) (field : LimitField) : Nat :=
  ((limits.get field).toNat?.filter (0 < ·)).getD field.fallback

def attemptLimits (limits : LimitSettings) : AttemptLimits where
  login := limits.effective .login
  password := limits.effective .password
  address := limits.effective .address

def span (limits : LimitSettings) : Duration :=
  .ofMillis (limits.effective .window)

/-- A limit reads as it was set, and the others as before. -/
theorem get_set (limits : LimitSettings) (field other : LimitField) (value : Int) :
    (limits.set field value).get other = if field = other then value else limits.get other := by
  cases field <;> cases other <;> rfl

/-- Limits are told apart by one of their values. -/
@[ext]
theorem ext {first second : LimitSettings} (same : ∀ field, first.get field = second.get field) :
    first = second := by
  obtain ⟨login, password, address, window⟩ := first
  obtain ⟨login', password', address', window'⟩ := second
  obtain rfl : login = login' := same .login
  obtain rfl : password = password' := same .password
  obtain rfl : address = address' := same .address
  obtain rfl : window = window' := same .window
  rfl

theorem effective_of_pos {limits : LimitSettings} {field : LimitField}
    (positive : 0 < limits.get field) : limits.effective field = (limits.get field).toNat := by
  obtain ⟨number, value⟩ := Int.eq_ofNat_of_zero_le (Int.le_of_lt positive)
  have counted : 0 < number := by omega
  rw [effective, value]
  simp [Int.toNat?, Option.filter, counted]

/-- A limit that is not positive gives way to its default. -/
theorem effective_of_le {limits : LimitSettings} {field : LimitField}
    (missing : limits.get field ≤ 0) : limits.effective field = field.fallback := by
  rw [effective]
  cases value : limits.get field with
  | ofNat number =>
    rw [value] at missing
    obtain rfl : number = 0 := Int.ofNat_eq_zero.mp (Int.le_antisymm missing (Int.natCast_nonneg _))
    rfl
  | negSucc number => rfl

theorem effective_pos (limits : LimitSettings) (field : LimitField) :
    0 < limits.effective field := by
  rcases Int.lt_or_le 0 (limits.get field) with positive | missing
  · rw [effective_of_pos positive]
    omega
  · rw [effective_of_le missing]
    exact field.fallback_pos

end LimitSettings

/-! ## Everything else -/

/-- Where a service listens. -/
structure Endpoint where
  host : String := "127.0.0.1"
  port : Nat := 50051
  deriving DecidableEq, Repr

/-- Host and port; a host with colons is put in brackets, unless it is already. -/
def Endpoint.address (endpoint : Endpoint) : String :=
  let host := endpoint.host.toList
  if host.contains ':' && host.head? != some '[' then s!"[{endpoint.host}]:{endpoint.port}"
  else s!"{endpoint.host}:{endpoint.port}"

inductive StorageKind where
  | memory
  | database
  deriving DecidableEq, Repr

namespace StorageKind

def name : StorageKind → String
  | memory => "memory"
  | database => "pgsql"

def all : List StorageKind :=
  [memory, database]

def ofName? (name : String) : Option StorageKind :=
  all.find? (·.name == name)

end StorageKind

structure Storage where
  kind : StorageKind := .memory
  /-- How the database is reached. -/
  source : String := ""
  maxConnections : Nat := 10
  deriving DecidableEq, Repr

/-- What the service is called unless the settings say otherwise. -/
def defaultServiceName : String :=
  "Brute-force protection"

/-- How much is logged unless the settings say otherwise. -/
def defaultLogLevel : String :=
  "info"

structure Settings where
  serviceId : String := "brute-guard"
  serviceName : String := defaultServiceName
  limits : LimitSettings := {}
  logLevel : String := defaultLogLevel
  endpoint : Endpoint := {}
  storage : Storage := {}
  /-- What was replaced by defaults. -/
  notes : List String := []
  deriving DecidableEq, Repr

namespace Settings

/-- The settings with the default for one limit if it is not positive, which is noted. -/
def mended (settings : Settings) (field : LimitField) : Settings :=
  if settings.limits.get field ≤ 0 then
    { settings with
      limits := settings.limits.set field field.fallback
      notes := settings.notes ++ [field.note (settings.limits.get field)] }
  else settings

/-- The settings with defaults for all limits that are not positive. -/
def completed (settings : Settings) : Settings :=
  LimitField.all.foldl mended settings

theorem mended_of_pos {settings : Settings} {field : LimitField}
    (positive : 0 < settings.limits.get field) : settings.mended field = settings := by
  rw [mended, if_neg (Int.not_le.mpr positive)]

/-- A limit that is not positive is replaced, and noted after everything else. -/
theorem mended_of_le {settings : Settings} {field : LimitField}
    (missing : settings.limits.get field ≤ 0) :
    settings.mended field =
      { settings with
        limits := settings.limits.set field field.fallback
        notes := settings.notes ++ [field.note (settings.limits.get field)] } := by
  rw [mended, if_pos missing]

/-- The settings when nothing is set. -/
def default : Settings :=
  completed {}

/-- What contradicts itself in the settings, if anything does. -/
def contradiction? (settings : Settings) : Option String :=
  if settings.storage.kind = .database && (Text.trim settings.storage.source.toList).isEmpty then
    some "storage.dsn is required for pgsql storage"
  else if settings.storage.maxConnections = 0 then
    some "storage.max_connections must be greater than 0"
  else none

end Settings

structure ClientSettings where
  serviceName : String := defaultServiceName
  logLevel : String := defaultLogLevel
  server : Endpoint := {}
  deriving DecidableEq, Repr

/-- A fault in words. -/
def SettingsFault.message : SettingsFault → String
  | unavailable => "cannot read config"
  | unreadable => "cannot parse config"
  | invalid reason => s!"invalid config: {reason}"

/-! ## The daemon

Rules are stored in memory; settings that ask for a database are refused.
-/

namespace Daemon

/-- Why a daemon cannot be made. -/
inductive Fault where
  /-- There is no database to store rules in. -/
  | noDatabase
  | gate (fault : GateFault)
  deriving DecidableEq, Repr

def Fault.message : Fault → String
  | noDatabase => "pgsql storage requested but built without the pgsql-storage feature"
  | gate fault => s!"cannot create permit checker: {fault.message}"

/-- The gate that settings describe, over a store without rules. -/
def start (settings : Settings) (store : MemoryStore) :
    Except Fault (Gate MemoryStore Registry) :=
  match settings.storage.kind with
  | .database => .error .noDatabase
  | .memory =>
    (Gate.build store .empty settings.limits.span settings.limits.attemptLimits).mapError .gate

/-- What is printed for settings that are in order. -/
def settingsInOrder : String :=
  "configuration OK\n"

/-- Time passes: the clock of the registry moves on, and rules get the new time from now on. -/
def pass (gate : Gate MemoryStore Registry) (nanos : Nat) (now : Timestamp) :
    Gate MemoryStore Registry :=
  { gate with
    limiter := gate.limiter.advance nanos
    store := { gate.store with now } }

/-- No bucket is left, and the rules stay. -/
def shutdown (gate : Gate MemoryStore Registry) : Gate MemoryStore Registry :=
  { gate with limiter := gate.limiter.shutdown }

end Daemon
end LoginGate
