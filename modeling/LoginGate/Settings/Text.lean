import LoginGate.Settings
import LoginGate.Toml.Document

/-! # Reading settings

Settings are read from TOML. What is missing takes its default, and what is not known is ignored. A
group of settings is a table, or an array of its settings in order.
-/

namespace LoginGate

namespace Toml

/-- The settings of a group, by name. -/
abbrev Group := String → Option Toml

/-- A group of settings with these names in order; a date is a group without settings. -/
def group? (names : List String) : Toml → Option Group
  | .table members => some fun name => members.lookup name
  | .array items => some fun name => (names.zip items).lookup name
  | .moment => some fun _ => none
  | _ => none

/-- A setting, or its default when it is missing. -/
def setting? {α : Type} (read? : Toml → Option α) (fallback : α) (value : Option Toml) :
    Option α :=
  match value with
  | some value => read? value
  | none => some fallback

def text? : Toml → Option String
  | .string text => some text
  | _ => none

def int? : Toml → Option Int
  | .integer value => some value
  | _ => none

def upTo? (most : Nat) : Toml → Option Nat
  | .integer value => if 0 ≤ value ∧ value ≤ most then some value.toNat else none
  | _ => none

/-- A name, given as a string or as the only key of a table without any value. -/
def name? : Toml → Option String
  | .string name => some name
  | .table [(name, .table [])] | .table [(name, .array [])] => some name
  | _ => none

end Toml

open Toml

def LimitSettings.ofToml? (value : Toml) : Option LimitSettings := do
  let group ← group? (LimitField.all.map LimitField.name) value
  let limit? (field : LimitField) := setting? int? 0 (group field.name)
  some { login := ← limit? .login, password := ← limit? .password, address := ← limit? .address
         window := ← limit? .window }

def Endpoint.ofToml? (value : Toml) : Option Endpoint := do
  let group ← group? ["host", "port"] value
  let blank : Endpoint := {}
  some { host := ← setting? text? blank.host (group "host")
         port := ← setting? (upTo? (UInt16.size - 1)) blank.port (group "port") }

def Storage.ofToml? (value : Toml) : Option Storage := do
  let group ← group? ["type", "dsn", "max_connections"] value
  let blank : Storage := {}
  let kind? (value : Toml) := (name? value).bind StorageKind.ofName?
  some { kind := ← setting? kind? blank.kind (group "type")
         source := ← setting? text? blank.source (group "dsn")
         maxConnections :=
           ← setting? (upTo? (UInt32.size - 1)) blank.maxConnections (group "max_connections") }

def logLevel? (value : Toml) : Option String := do
  let group ← group? ["level"] value
  setting? text? defaultLogLevel (group "level")

namespace Settings

/-- The settings of a service as they are written, before defaults for its limits. -/
def ofToml? (value : Toml) : Option Settings := do
  let group ← group? ["service_id", "service_name", "limits", "logger", "api", "storage"] value
  let blank : Settings := {}
  some { serviceId := ← setting? text? blank.serviceId (group "service_id")
         serviceName := ← setting? text? blank.serviceName (group "service_name")
         limits := ← setting? LimitSettings.ofToml? {} (group "limits")
         logLevel := ← setting? logLevel? blank.logLevel (group "logger")
         endpoint := ← setting? Endpoint.ofToml? {} (group "api")
         storage := ← setting? Storage.ofToml? {} (group "storage") }

/-- The settings in a text, completed and free of contradictions. -/
def ofText (text : String) : Except SettingsFault Settings :=
  match (read? text).bind fun members => ofToml? (.table members) with
  | none => .error .unreadable
  | some settings =>
    match settings.contradiction? with
    | some reason => .error (.invalid reason)
    | none => .ok settings.completed

end Settings

namespace ClientSettings

def ofToml? (value : Toml) : Option ClientSettings := do
  let group ← group? ["service_name", "logger", "server"] value
  let blank : ClientSettings := {}
  some { serviceName := ← setting? text? blank.serviceName (group "service_name")
         logLevel := ← setting? logLevel? blank.logLevel (group "logger")
         server := ← setting? Endpoint.ofToml? {} (group "server") }

def ofText (text : String) : Except SettingsFault ClientSettings :=
  match (read? text).bind fun members => ofToml? (.table members) with
  | none => .error .unreadable
  | some settings => .ok settings

end ClientSettings
end LoginGate
