import LoginGate.Gate
import LoginGate.Wire.Request
import LoginGate.Wire.Response

/-! # The service

The service answers requests with the gate. Every request gets one response, whatever goes wrong;
what exactly went wrong inside the rule store is not told.
-/

namespace LoginGate.Service

def inputFailure (error : InputError) : Response :=
  .failure error.category error.code? error.message

def gateFailure (fault : GateFault) : Response :=
  .failure fault.category fault.code? fault.message

/-- The response to a failed operation on the rules; failures of the store are not explained. -/
def ruleFailure (fault : RuleFault) : Response :=
  match fault.category with
  | .internal => .failure .internal fault.code? "internal error"
  | category => .failure category fault.code? fault.message

/-- The response to a text that is no request. It explains the fault as far as `Json.Fault.message`
does: without its place, and without what is wrong in a text that is not JSON. -/
def malformedRequest (fault : Json.Fault) : Response :=
  .failure .validation none s!"malformed request: {fault.message}"

/-- One response for success and one for failure. -/
def respond {ε α : Type} (failure : ε → Response) (success : α → Response) :
    Except ε α → Response
  | .ok value => success value
  | .error error => failure error

variable {σ β : Type} [RuleStore σ] [Limiter β]

/-- Carries out a task on the rules for a listing, if the listing can be read. -/
def onListing {α : Type} (gate : Gate σ β) (verdict network : String)
    (task : Listing → RuleBook.Task α) (success : α → Response) : Response × Gate σ β :=
  match Listing.parse verdict network with
  | .ok listing =>
    let (result, gate) := gate.onRules (task listing)
    (respond ruleFailure success result, gate)
  | .error error => (inputFailure error, gate)

def listRules (gate : Gate σ β) (filter : Filter) : Response × Gate σ β :=
  let (result, gate) := gate.onRules (RuleBook.list filter)
  (respond ruleFailure .ofRules result, gate)

def handle (gate : Gate σ β) : Request → Response × Gate σ β
  | .check login password address =>
    let (result, gate) := gate.checkText login password address
    (respond gateFailure .ofOutcome result, gate)
  | .reset parameter value =>
    let (result, gate) := gate.reset ⟨parameter, value⟩
    (respond gateFailure .ofFound result, gate)
  | .addRule verdict network => onListing gate verdict network RuleBook.add .ofRule
  | .deleteRule verdict network =>
    onListing gate verdict network RuleBook.delete fun () => .done
  | .listRules none => listRules gate .everything
  | .listRules (some verdict) =>
    match Verdict.parse verdict with
    | .ok verdict => listRules gate (Filter.everything.withVerdict verdict)
    | .error error => (inputFailure error, gate)

def decode (line : String) : Except Json.Fault Request :=
  Json.decodeText Request.ofJson line

/-- Answers a line. -/
def handleLine (gate : Gate σ β) (line : String) : Response × Gate σ β :=
  match decode line with
  | .ok request => handle gate request
  | .error fault => (malformedRequest fault, gate)

end LoginGate.Service
