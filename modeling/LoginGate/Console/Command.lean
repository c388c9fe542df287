import LoginGate.Text.Fields
import LoginGate.Wire.Request
import LoginGate.Wire.Response

/-! # Console commands

A command is a line of words. Its arguments are checked before anything is sent, so a request made
from a command is never refused for the way its arguments are spelled.
-/

namespace LoginGate

inductive Command where
  | add (listing : Listing)
  | remove (listing : Listing)
  /-- The value of an address is in canonical form. -/
  | reset (aspect : Aspect) (value : String)
  | list (verdict : Option Verdict)
  | help
  | quit
  deriving DecidableEq, Repr

namespace Command

/-- The entry of a command in the help. -/
structure Entry where
  name : String
  usage : String
  description : String
  deriving DecidableEq, Repr

def addEntry : Entry :=
  ⟨"add", "add <white|black> <network>",
    "Add a network to a list. Example: add white 192.168.2.0/24"⟩

def removeEntry : Entry :=
  ⟨"rm", "rm <white|black> <network>",
    "Remove a network from a list. Example: rm black 10.0.0.0/8"⟩

def resetEntry : Entry :=
  ⟨"reset", "reset <login|ip> <value>", "Reset a bucket. Example: reset ip 192.168.0.1"⟩

def listEntry : Entry :=
  ⟨"list", "list [white|black]", "Show listed networks"⟩

def helpEntry : Entry :=
  ⟨"help", "help", "Show this help"⟩

def quitEntry : Entry :=
  ⟨"quit", "quit", "Exit"⟩

/-- All commands, in the order of the help. -/
def entries : List Entry :=
  [addEntry, removeEntry, resetEntry, listEntry, helpEntry, quitEntry]

/-- Why a line is not a command. -/
inductive Fault where
  | empty
  | unknown (name : String)
  | wrongArguments (entry : Entry)
  | unknownList (name : String)
  | unknownParameter (name : String)
  | input (error : InputError)
  deriving DecidableEq, Repr

def Fault.message : Fault → String
  | empty => "command not specified"
  | unknown name => s!"{name}: unknown command"
  | wrongArguments entry => s!"{entry.name}: wrong arguments count, usage: {entry.usage}"
  | unknownList name => s!"list must be white or black, got {Text.quoted name}"
  | unknownParameter name => s!"reset parameter must be login or ip, got {Text.quoted name}"
  | input error => error.message

/-- The verdict of a list, which goes by its color alone. -/
def listVerdict (name : String) : Except Fault Verdict :=
  if name = "white" || name = "black" then (Verdict.parseListName name).mapError .input
  else .error (.unknownList name)

def listing (color network : String) : Except Fault Listing := do
  let verdict ← listVerdict color
  let network ← (Network.parse network).mapError .input
  .ok ⟨verdict, network⟩

/-- A reset of a login or an address. -/
def resetOf (parameter value : String) : Except Fault Command :=
  if parameter = "login" then .ok (.reset .login value)
  else if parameter = "ip" then do
    let address ← (Address.parse value).mapError .input
    .ok (.reset .address (toString address))
  else .error (.unknownParameter parameter)

/-- The command that some words make. -/
def ofWords : List String → Except Fault Command
  | [] => .error .empty
  | ["add", color, network] => .add <$> listing color network
  | "add" :: _ => .error (.wrongArguments addEntry)
  | ["rm", color, network] => .remove <$> listing color network
  | "rm" :: _ => .error (.wrongArguments removeEntry)
  | ["reset", parameter, value] => resetOf parameter value
  | "reset" :: _ => .error (.wrongArguments resetEntry)
  | ["list"] => .ok (.list none)
  | ["list", color] => .list <$> (some <$> listVerdict color)
  | "list" :: _ => .error (.wrongArguments listEntry)
  | "help" :: _ => .ok .help
  | "quit" :: _ | "exit" :: _ => .ok .quit
  | name :: _ => .error (.unknown name)

def parse (line : String) : Except Fault Command :=
  ofWords ((Text.words line.toList).map String.ofList)

/-- The request for a command; two commands need none. -/
def request? : Command → Option Request
  | add listing => some (.addRule listing.verdict.name (toString listing.network))
  | remove listing => some (.deleteRule listing.verdict.name (toString listing.network))
  | reset aspect value => some (.reset aspect.name value)
  | list verdict => some (.listRules (verdict.map Verdict.name))
  | help | quit => none

/-- The text followed by blanks up to a width. -/
def column (width : Nat) (text : String) : String :=
  text ++ String.ofList (List.replicate (width - text.length) ' ')

def ruleLine (rule : Rule) : String :=
  let verdict := column 5 rule.verdict.name
  s!"{verdict} {rule.network}"

/-- What came of a command, by the response to its request. -/
def describe (response : Response) : Command → String
  | add listing =>
    match response.rule with
    | some rule => s!"{listing.network} added ({rule.id})"
    | none => s!"{listing.network} added"
  | remove listing => s!"{listing.network} removed"
  | reset aspect value =>
    if response.found = some true then s!"{aspect.name} {value} reset"
    else s!"no bucket for {aspect.name} {value}"
  | list _ =>
    match response.rules.getD [] with
    | [] => "no rules"
    | rules => "\n".intercalate (rules.map ruleLine)
  | help | quit => ""

def helpText : String :=
  "Available commands:\n" ++ String.join (entries.map fun entry =>
    let name := column 7 entry.name
    s!" - {name}{entry.description}\n")

def errorLine (message : String) : String :=
  s!"Error: {message}"

end Command
end LoginGate
