import LoginGate.Console
import LoginGate.Settings
import LoginGate.Settings.Text
import Std.Async.DNS
import Std.Async.TCP
import Std.Time.DateTime.Timestamp

/-! # The program

`login-gate` serves requests at the address in its settings; `login-gate console` talks to a service
that runs elsewhere. Here bytes, clocks and random numbers meet the library, which does the rest.
-/

namespace LoginGate

open Std.Async Std.Net

/-! ## Arguments -/

structure Options where
  console : Bool := false
  /-- The file with the settings. -/
  settings : Option String := none
  /-- The settings are checked and nothing is served. -/
  checkOnly : Bool := false
  /-- The address of the service, in place of the one in the settings. -/
  server : Option String := none

/-- The options in the arguments of the program. -/
def Options.ofArguments? : List String → Options → Option Options
  | [], options => some options
  | "-c" :: file :: rest, options | "--config" :: file :: rest, options =>
    ofArguments? rest { options with settings := some file }
  | "--check-config" :: rest, options =>
    if options.console then none else ofArguments? rest { options with checkOnly := true }
  | "-s" :: address :: rest, options | "--server" :: address :: rest, options =>
    if options.console then ofArguments? rest { options with server := some address } else none
  | _, _ => none

def readSettings (named : Option String) (other : String) : IO (Option String) := do
  match named with
  | some file => some <$> IO.FS.readFile file
  | none =>
    try some <$> IO.FS.readFile other
    catch
      | .noFileOrDirectory .. => return none
      | error => throw error

/-- Settings in order, or an error. -/
def accept {α : Type} (settings : Except SettingsFault α) : IO α :=
  match settings with
  | .ok settings => return settings
  | .error fault => throw (.userError fault.message)

/-! ## Addresses -/

/-- The address of a host, which may be a name. -/
def resolve (host : String) : Async IPAddr := do
  let bare := ((host.dropPrefix "[").toString.dropSuffix "]").toString
  match IPv4Addr.ofString bare, IPv6Addr.ofString bare with
  | some address, _ => return .v4 address
  | none, some address => return .v6 address
  | none, none =>
    match (← DNS.getAddrInfo bare "")[0]? with
    | some address => return address
    | none => throw (.userError s!"unknown host {host}")

def socketAddress (host : String) (port : Nat) : Async SocketAddress := do
  match ← resolve host with
  | .v4 address => return .v4 ⟨address, port.toUInt16⟩
  | .v6 address => return .v6 ⟨address, port.toUInt16⟩

def endpointOf? (address : String) : Option Endpoint := do
  let fields := Text.fields (· == ':') address.toList
  let port ← Text.numeral? 10 (← fields.getLast?)
  some { host := String.ofList (Address.joined ':' fields.dropLast), port }

/-! ## Serving -/

/-- A gate in use, and when it was used last. -/
structure Running where
  gate : Gate MemoryStore Registry
  since : Nat

def wallTime : IO Timestamp := do
  let nanos := (← Std.Time.Timestamp.now).toNanosecondsSinceUnixEpoch.val
  return ⟨nanos / 1_000_000_000, (nanos % 1_000_000_000).toNat⟩

/-- An endless supply of identifiers from one random number. -/
def identifiers (seed n : Nat) : RuleId :=
  .ofRandomBits ((seed + n) * 0x9E3779B97F4A7C15F39CC0605CEDC835)

def openStore : IO MemoryStore := do
  let bytes ← IO.getRandomBytes 16
  let seed := bytes.toList.foldl (fun seed byte => seed * 256 + byte.toNat) 0
  return .empty (← wallTime) (identifiers seed)

/-- Answers one line at the present time. -/
def answerLine (running : IO.Ref Running) (line : List UInt8) : IO (List Response) := do
  let now ← IO.monoNanosNow
  let time ← wallTime
  running.modifyGet fun { gate, since } =>
    let gate := Daemon.pass gate (now - since) time
    let (responses, gate) := Session.answerLines gate [line]
    (responses, { gate, since := max now since })

/-- Answers the lines that arrive on a connection. -/
partial def converse (running : IO.Ref Running) (client : TCP.Socket.Client) (ended : Bool)
    (arrived : List UInt8) : Async Unit := do
  match Session.next? ended arrived with
  | some (line, rest) =>
    for response in ← answerLine running line do
      client.send ⟨(Session.written response).toArray⟩
    unless (Session.demand line).endsSession do converse running client ended rest
  | none =>
    unless ended do
      match ← client.recv? 65536 with
      | some bytes => converse running client false (arrived ++ bytes.toList)
      | none => converse running client true arrived

/-- Accepts connections for ever and answers each on its own. -/
partial def acceptAll (running : IO.Ref Running) (server : TCP.Socket.Server) : Async Unit := do
  let client ← server.accept
  background do
    try
      converse running client false []
      client.shutdown
    catch _ => return
  acceptAll running server

/-- Serves requests as the settings say. -/
def serve (settings : Settings) : IO Unit := do
  for note in settings.notes do IO.eprintln note
  match Daemon.start settings (← openStore) with
  | .error fault => throw (.userError fault.message)
  | .ok gate =>
    let running ← IO.mkRef { gate, since := ← IO.monoNanosNow : Running }
    let server ← TCP.Socket.Server.mk
    let address ← (socketAddress settings.endpoint.host settings.endpoint.port).block
    server.bind address
    server.listen 128
    (acceptAll running server).block

/-! ## The console -/

/-- Waits for a whole line, and gives the bytes after it. -/
partial def receiveLine (client : TCP.Socket.Client) (arrived : List UInt8) :
    Async (List UInt8 × List UInt8) := do
  let (line, rest) := Session.cut arrived.length arrived
  if line.getLast? = some Session.lineFeed then return (line, rest)
  match ← client.recv? 65536 with
  | some bytes => receiveLine client (arrived ++ bytes.toList)
  | none => return (line, rest)

/-- Talks to the operator until one of them has had enough. -/
partial def interact (input output : IO.FS.Stream) (client : TCP.Socket.Client)
    (arrived : List UInt8) : Async Unit := do
  let print (text : String) : IO Unit := do
    output.putStr text
    output.flush
  print Console.prompt
  let line ← input.getLine
  if line.isEmpty then print Console.farewell
  else
    match Console.receive line with
    | .finish shown => print shown
    | .continue shown =>
      print shown
      interact input output client arrived
    | .send command request =>
      client.send ⟨(Client.written request).toArray⟩
      let (line, arrived) ← receiveLine client arrived
      match Client.response line with
      | .ok response =>
        print (Console.answer command response)
        interact input output client arrived
      | .error fault => throw (.userError fault.message)

/-- Connects to the service and talks to the operator. -/
def runConsole (settings : ClientSettings) (server : Option String) : IO Unit := do
  let endpoint ← match server with
    | none => pure settings.server
    | some address =>
      match endpointOf? address with
      | some endpoint => pure endpoint
      | none => throw (.userError s!"cannot connect to {address}")
  let client ← TCP.Socket.Client.mk
  let address ← (socketAddress endpoint.host endpoint.port).block
  (client.connect address).block
  let output ← IO.getStdout
  output.putStr (Console.greeting settings.serviceName)
  (interact (← IO.getStdin) output client []).block

/-! ## Everything -/

def usage : String :=
  "usage: login-gate [--config FILE] [--check-config]\n" ++
    "       login-gate console [--config FILE] [--server HOST:PORT]"

/-- Does what the options say. -/
def Options.run (options : Options) : IO Unit := do
  if options.console then
    let text ← readSettings options.settings "/etc/brute_guard/cli.toml"
    let settings ← accept (text.elim (.ok {}) ClientSettings.ofText)
    runConsole settings options.server
  else
    let text ← readSettings options.settings "/etc/brute_guard/config.toml"
    let settings ← accept (text.elim (.ok .default) Settings.ofText)
    if options.checkOnly then IO.print Daemon.settingsInOrder else serve settings

end LoginGate

def main (arguments : List String) : IO UInt32 := do
  let options := match arguments with
    | "console" :: rest => LoginGate.Options.ofArguments? rest { console := true }
    | _ => LoginGate.Options.ofArguments? arguments {}
  match options with
  | none =>
    IO.eprintln LoginGate.usage
    return 2
  | some options =>
    try
      options.run
      return 0
    catch error =>
      IO.eprintln s!"Error: {error}"
      return 1
