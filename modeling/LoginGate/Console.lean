import LoginGate.Console.Command
import LoginGate.Session
import LoginGate.Settings

/-! # The console

The console greets the operator, then prompts for one line after the other, sends what a line asks
for to the service and shows the answer. It ends with a farewell when the operator quits or the
input ends. It breaks off when a line is not UTF-8 or the service does not answer.

The console is a machine: `Console.receive` says what one line of input does, `Console.answer` what
a response does. What it shows is a list of texts in order.
-/

namespace LoginGate.Console

inductive Action where
  /-- It shows a text and goes on to the next line. -/
  | continue (shown : String)
  /-- It sends a request and shows what comes of the command. -/
  | send (command : Command) (request : Request)
  /-- It shows a text and ends. -/
  | finish (shown : String)

def line (text : String) : String :=
  text ++ "\n"

def greeting (serviceName : String) : String :=
  line (serviceName ++ "\n\n" ++ Command.helpText)

def prompt : String :=
  "> "

def farewell : String :=
  line "\nbrute-guard CLI quit. Bye!"

def receive (input : String) : Action :=
  if (Text.trim input.toList).isEmpty then .continue ""
  else
    match Command.parse input with
    | .error fault => .continue (line (Command.errorLine fault.message))
    | .ok .quit => .finish farewell
    | .ok .help => .continue (line Command.helpText)
    | .ok command =>
      match command.request? with
      | some request => .send command request
      | none => .continue ""

/-- What is shown for the response to a command. -/
def answer (command : Command) (response : Response) : String :=
  match response.errorMessage? with
  | none => line s!"OK: {command.describe response}"
  | some message => line (Command.errorLine message)

variable {σ β : Type} [RuleStore σ] [Limiter β]

/-- What the console shows for some lines of input at a gate, whether it ended well, and the gate.
A line that is missing cannot be decoded. -/
def run (gate : Gate σ β) : List (Option String) → String × Bool × Gate σ β
  | [] => (prompt ++ farewell, true, gate)
  | none :: _ => (prompt, false, gate)
  | some input :: rest =>
    match receive input with
    | .finish shown => (prompt ++ shown, true, gate)
    | .continue shown =>
      let (more, ended, gate) := run gate rest
      (prompt ++ shown ++ more, ended, gate)
    | .send command request =>
      let (responses, gate) := Session.serve gate (Client.written request)
      match Client.reply (responses.flatMap Session.written) with
      | .error _ => (prompt, false, gate)
      | .ok response =>
        let (more, ended, gate) := run gate rest
        (prompt ++ answer command response ++ more, ended, gate)

/-- The text of a line without its end, if it can be decoded. -/
def inputLine? (bytes : List UInt8) : Option String :=
  (Session.decode? bytes).map fun text =>
    match text.reverse with
    | '\n' :: '\r' :: rest | '\n' :: rest => String.ofList rest.reverse
    | rest => String.ofList rest.reverse

def inputLines (bytes : List UInt8) : List (Option String) :=
  go bytes.length bytes
where
  /-- The lines of a text of at most this many bytes. -/
  go : Nat → List UInt8 → List (Option String)
    | _, [] => []
    | 0, _ => []
    | most + 1, bytes =>
      let (line, rest) := Session.cut bytes.length bytes
      inputLine? line :: go most rest

end LoginGate.Console
