import LoginGate.Attempt
import LoginGate.Duration
import LoginGate.Limits
import LoginGate.RuleBook

/-! # The gate

The gate judges attempts to log in. The rule lists come first: an allowed address is admitted and a
denied one refused without looking further. Everybody else is counted against three limits, on the
login, the password and the address in this order, until one is exceeded.

`Gate.judge` is the procedure behind a judgement: it asks for the rules that cover the address and
for hits on keys, and nothing else.
-/

namespace LoginGate

/-- The hits allowed within a window, for each aspect. -/
structure AttemptLimits where
  login : Nat := 10
  password : Nat := 100
  address : Nat := 1000
  deriving DecidableEq, Repr

def AttemptLimits.of (limits : AttemptLimits) : Aspect → Nat
  | .login => limits.login
  | .password => limits.password
  | .address => limits.address

/-- The length of new windows: a positive number of nanoseconds in 64 bits. -/
structure Window where
  nanos : Nat
  nanos_pos : 0 < nanos
  nanos_lt : nanos < UInt64.size
  deriving DecidableEq, Repr

namespace Window

/-- The window of this length, or the longest one; there is none without length. -/
def ofSpan? (span : Duration) : Option Window :=
  if positive : 0 < span.nanos then
    some ⟨min span.nanos (UInt64.size - 1), Nat.lt_min.mpr ⟨positive, by decide⟩,
      Nat.lt_of_le_of_lt (Nat.min_le_right _ _) (by decide)⟩
  else none

/-- The length as a span of time. -/
def span (window : Window) : Duration :=
  ⟨window.nanos, Nat.le_of_lt (Nat.lt_trans window.nanos_lt (by decide))⟩

end Window

/-- Why an operation of the gate failed; a denied attempt is not a failure. -/
inductive GateFault where
  | input (error : InputError)
  /-- A window needs a length. -/
  | zeroWindow
  deriving DecidableEq, Repr

namespace GateFault

def message : GateFault → String
  | input error => error.message
  | zeroWindow => "base window must be greater than 0"

def category : GateFault → Category
  | input error => error.category
  | zeroWindow => .validation

def code? : GateFault → Option Nat
  | input error => error.code?
  | zeroWindow => none

end GateFault

/-- What the gate asks while it judges an attempt. -/
inductive GateCall where
  /-- A call to the rule store. -/
  | rules (call : RuleCall)
  /-- A hit on a key. -/
  | hit (key : String) (limits : Limits)
  deriving DecidableEq, Repr

@[reducible]
def GateCall.Answer : GateCall → Type
  | rules call => call.Answer
  | hit _ _ => Except LimitsFault Bool

/-- A gate over a rule store and a limiter. -/
structure Gate (σ β : Type) where
  store : σ
  limiter : β
  /-- The length of windows that begin from now on. -/
  window : Window
  limits : AttemptLimits
  tally : Tally := {}

namespace Gate

open Procedure

/-! ## Judging -/

def unavailable : Outcome :=
  .deny .internal "service unavailable"

def limitsFor (limits : AttemptLimits) (window : Window) (aspect : Aspect) : Limits :=
  ⟨window.span, limits.of aspect⟩

/-- Counts the attempt against the limits of some aspects, up to the first exceeded one. -/
def measure (limits : AttemptLimits) (window : Window) (attempt : Attempt) :
    List Aspect → Procedure GateCall.Answer Outcome
  | [] => done .grant
  | aspect :: rest =>
    let value := attempt.value aspect
    ask (.hit (aspect.key value) (limitsFor limits window aspect)) fun
      | .ok false => measure limits window attempt rest
      | .ok true =>
        done (.deny (.limit aspect) s!"request limit reached for {aspect.name} {value}")
      | .error _ => done unavailable

/-- Judges an attempt by the rule lists, and by the limits if it is not listed. -/
def judge (limits : AttemptLimits) (window : Window) (attempt : Attempt) :
    Procedure GateCall.Answer Outcome :=
  ((RuleBook.classify attempt.address).embed GateCall.rules fun _ answer => answer).bind fun
    | .ok .allow => done .grant
    | .ok .deny => done (.deny .rule s!"address {attempt.address} is on the deny list")
    | .ok .unlisted => measure limits window attempt Aspect.all
    | .error _ => done unavailable

variable {σ β : Type}

/-- A gate with a window of the given length. -/
def build (store : σ) (limiter : β) (window : Duration) (limits : AttemptLimits) :
    Except GateFault (Gate σ β) :=
  match Window.ofSpan? window with
  | some window => .ok { store, limiter, window, limits }
  | none => .error .zeroWindow

section Limiter

variable [Limiter β]

/-- A reset also forgets the hits on a key. -/
def resetKey (gate : Gate σ β) (key : String) : Bool × Gate σ β :=
  let (found, limiter) := Limiter.reset key gate.limiter
  (found, { gate with limiter })

/-- Forgets the hits on a login or an address and tells whether there were any. -/
def reset (gate : Gate σ β) (request : ResetRequest) : Except GateFault Bool × Gate σ β :=
  match request.key with
  | .ok key =>
    let (found, gate) := gate.resetKey key
    (.ok found, gate)
  | .error error => (.error (.input error), gate)

end Limiter

/-- Changes the length of windows that begin from now on. -/
def setWindow (gate : Gate σ β) (window : Duration) : Except GateFault Unit × Gate σ β :=
  match Window.ofSpan? window with
  | some window => (.ok (), { gate with window })
  | none => (.error .zeroWindow, gate)

section Store

variable [RuleStore σ]

def onRules {α : Type} (gate : Gate σ β) (task : RuleBook.Task α) :
    Except RuleFault α × Gate σ β :=
  let (result, store) := task.run RuleStore.answer gate.store
  (result, { gate with store })

/-- How a gate's store and limiter answer the calls of a judgement. -/
def answer [Limiter β] : (call : GateCall) → σ × β → call.Answer × (σ × β)
  | .rules call, (store, limiter) =>
    let (reply, store) := RuleStore.answer call store
    (reply, store, limiter)
  | .hit key limits, (store, limiter) =>
    let (reply, limiter) := Limiter.hit key limits limiter
    (reply, store, limiter)

/-- Judges an attempt and counts the outcome. -/
def check [Limiter β] (gate : Gate σ β) (attempt : Attempt) : Outcome × Gate σ β :=
  let (outcome, store, limiter) :=
    (judge gate.limits gate.window attempt).run answer (gate.store, gate.limiter)
  (outcome, { gate with store, limiter, tally := gate.tally.record outcome })

/-- Judges an attempt from an address given as text; unless it is an address, nothing happens. -/
def checkText [Limiter β] (gate : Gate σ β) (login password address : String) :
    Except GateFault Outcome × Gate σ β :=
  match Address.parse address with
  | .ok address =>
    let (outcome, gate) := gate.check ⟨login, password, address⟩
    (.ok outcome, gate)
  | .error error => (.error (.input error), gate)

end Store

def describe (gate : Gate σ β) : String :=
  let limits := gate.limits
  s!"PermitChecker \x7b base_window: {gate.window.span}, limits: PermitLimits \x7b " ++
    s!"login: {limits.login}, password: {limits.password}, ip: {limits.address} \x7d, .. \x7d"

end Gate
end LoginGate
