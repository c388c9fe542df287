import LoginGate.Json.Decode
import LoginGate.Json.Value

/-! # Requests

A request names its operation in the member `op` and has the operation's arguments as further
members. An array of the operation and its arguments in order is a request as well.

The operation may stand anywhere among the members. It is interpreted where it stands, and the
arguments after the whole request has been read; therefore a request is malformed if any of its
members is, and wrong arguments come to light last.
-/

namespace LoginGate

open Json

/-- A request, its arguments as they were sent. -/
inductive Request where
  | check (login password address : String)
  | reset (parameter value : String)
  | addRule (verdict network : String)
  | deleteRule (verdict network : String)
  | listRules (verdict : Option String)
  deriving DecidableEq, Repr

namespace Request

/-- The operations that can be requested. -/
inductive Operation where
  | check
  | reset
  | addRule
  | deleteRule
  | listRules
  deriving DecidableEq, Repr

namespace Operation

def name : Operation → String
  | check => "check"
  | reset => "reset"
  | addRule => "add_rule"
  | deleteRule => "delete_rule"
  | listRules => "list_rules"

def all : List Operation :=
  [check, reset, addRule, deleteRule, listRules]

def ofName? (name : String) : Option Operation :=
  all.find? (·.name == name)

theorem ofName?_name (operation : Operation) : ofName? operation.name = some operation := by
  cases operation <;> decide

/-- What arguments of the wrong number are told to belong to. -/
def label : Operation → String
  | check => "struct variant Request::Check"
  | reset => "struct variant Request::Reset"
  | addRule => "struct variant Request::AddRule"
  | deleteRule => "struct variant Request::DeleteRule"
  | listRules => "struct variant Request::ListRules"

end Operation

def operation : Request → Operation
  | check _ _ _ => .check
  | reset _ _ => .reset
  | addRule _ _ => .addRule
  | deleteRule _ _ => .deleteRule
  | listRules _ => .listRules

/-! ## Writing -/

def arguments : Request → List (String × Option Json)
  | check login password address =>
    [("login", some (.string login)), ("password", some (.string password)),
      ("address", some (.string address))]
  | reset parameter value =>
    [("parameter", some (.string parameter)), ("value", some (.string value))]
  | addRule verdict network | deleteRule verdict network =>
    [("verdict", some (.string verdict)), ("network", some (.string network))]
  | listRules verdict => [("verdict", verdict.map .string)]

def toJson (request : Request) : Json :=
  Json.present (("op", some (.string request.operation.name)) :: request.arguments)

/-! ## Reading -/

/-- A pair of two strings that are still to be read. -/
def pairFields (first second : String) : List (RecordField (String × String)) :=
  [{ name := first, read := fun tree pair => do return (← anyText tree, pair.2) },
    { name := second, read := fun tree pair => do return (pair.1, ← anyText tree) }]

def checkFields : List (RecordField (String × String × String)) :=
  [{ name := "login", read := fun tree (_, rest) => do return (← anyText tree, rest) },
    { name := "password"
      read := fun tree (login, _, address) => do return (login, ← anyText tree, address) },
    { name := "address"
      read := fun tree (login, password, _) => do return (login, password, ← anyText tree) }]

def listFields : List (RecordField (Option String)) :=
  [{ name := "verdict", required := false, read := fun tree _ => optional anyText tree }]

/-- The request for an operation, its arguments gathered in some way from blank ones. -/
def ofOperation (operation : Operation)
    (gather : {σ : Type} → List (RecordField σ) → σ → Except Fault σ) : Except Fault Request :=
  match operation with
  | .check => do
    let (login, password, address) ← gather checkFields ("", "", "")
    .ok (.check login password address)
  | .reset => do
    let (parameter, value) ← gather (pairFields "parameter" "value") ("", "")
    .ok (.reset parameter value)
  | .addRule => do
    let (verdict, network) ← gather (pairFields "verdict" "network") ("", "")
    .ok (.addRule verdict network)
  | .deleteRule => do
    let (verdict, network) ← gather (pairFields "verdict" "network") ("", "")
    .ok (.deleteRule verdict network)
  | .listRules => do
    let verdict ← gather listFields none
    .ok (.listRules verdict)

/-- The operation that a value names. -/
def readOperation (tree : Tree) : Except Fault Operation :=
  variantName tree >>= variant Operation.ofName? (Operation.all.map Operation.name)

/-- How deep containers may stand inside an argument. -/
def argumentDepth : Nat :=
  maxDepth - 1

/-- The operation among the members of a request, and the other members. -/
def splitMembers (ending : Ending) :
    Option Operation → List (Option String × Tree) →
      Except Fault (Option Operation × List (Option String × Tree))
  | operation, [] =>
    match ending with
    | .closed => .ok (operation, [])
    | .stray (some "op") =>
      .error (if operation.isSome then .mismatch (.duplicateField "op") else .malformed)
    | _ => .error .malformed
  | operation, (some "op", value) :: rest =>
    if operation.isSome then .error (.mismatch (.duplicateField "op"))
    else do
      let operation ← readOperation value
      splitMembers ending (some operation) rest
  | operation, (key, value) :: rest =>
    if key.isSome && value.isStrict argumentDepth then do
      let (operation, others) ← splitMembers ending operation rest
      .ok (operation, (key, value) :: others)
    else .error .malformed

/-- Arguments in order, no fewer and no more than there are fields. -/
def gatherItems {σ : Type} (label : String) (items : List Tree) (known : List (RecordField σ))
    (blank : σ) : Except Fault σ := do
  let expected := s!"{label} with {elements known.length}"
  let (left, arguments) ← readItems expected true 0 known blank items
  if left.isEmpty then .ok arguments
  else
    let expected := s!"{elements known.length} in sequence"
    .error (.mismatch (.wrongLength items.length expected))

def ofJson : Tree → Except Fault Request
  | .object members ending => do
    match ← splitMembers ending none members with
    | (some operation, arguments) =>
      ofOperation operation fun known blank => ofMembers known blank arguments .closed
    | (none, _) => .error (.mismatch (.missingField "op"))
  | .array [] closed => .error (if closed then .mismatch (.missingField "op") else .malformed)
  | .array (first :: rest) closed => do
    let operation ← readOperation first
    if closed && rest.all (·.isStrict argumentDepth) then
      ofOperation operation (gatherItems operation.label rest)
    else .error .malformed
  | tree => wrongType "internally tagged enum Request" tree

end Request
end LoginGate
