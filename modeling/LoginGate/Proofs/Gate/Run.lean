import LoginGate.Proofs.Gate.Decision
import LoginGate.Registry

/-! # Runs of a gate

What happens to a gate is a list of events. The rules change through procedures over the store, and
store and limiter may fail at any call; the clock that moves is the one of the registry behind the
limiter.
-/

namespace LoginGate

/-- There is a window for every length, cut to 64 bits. -/
theorem Window.exists_ofSpan? {span : Duration} (positive : 0 < span.nanos) :
    ∃ window, ofSpan? span = some window ∧ window.nanos = min span.nanos (wordSize - 1) :=
  ⟨_, dif_pos positive, rfl⟩

theorem Window.ofSpan?_of_zero {span : Duration} (zero : span.nanos = 0) : ofSpan? span = none :=
  dif_neg (Nat.not_lt_of_le (Nat.le_of_eq zero))

namespace Gate

inductive Event where
  | check (attempt : Attempt)
  /-- An attempt from an address given as text. -/
  | checkText (login password address : String)
  | reset (request : ResetRequest)
  /-- Any procedure over the rules, whatever comes out of it. -/
  | rules (task : RuleBook.Task Unit)
  | setWindow (window : Duration)
  | advance (nanos : Nat)
  /-- All buckets are removed. -/
  | shutdown

namespace Event

/-- The attempt that an event asks the gate to judge. -/
def attempt? : Event → Option Attempt
  | check attempt => some attempt
  | checkText login password address =>
    match Address.parse address with
    | .ok address => some ⟨login, password, address⟩
    | .error _ => none
  | _ => none

/-- The key that an event resets. -/
def resetKey? : Event → Option String
  | reset request => request.key.toOption
  | _ => none

/-- The event changes no window length and does not remove all buckets. -/
def isSteady : Event → Bool
  | setWindow _ | shutdown => false
  | _ => true

theorem resetKey?_ne_password (event : Event) (password : String) :
    event.resetKey? ≠ some (Aspect.password.key password) := by
  intro resets
  cases event with
  | reset request =>
    rw [resetKey?] at resets
    cases read : request.key with
    | error fault =>
      rw [read] at resets
      cases resets
    | ok key =>
      rw [read] at resets
      obtain ⟨aspect, value, allowed, same⟩ := ResetRequest.exists_key_of_key read
      have password := Option.some.inj resets
      exact allowed (Aspect.key_inj.mp (same.symm.trans password)).1
  | _ => cases resets

end Event

variable {σ : Type} [RuleStore σ]

def registry (gate : Gate σ (UnreliableLimiter Registry)) : Registry :=
  gate.limiter.inner

def onRegistry (gate : Gate σ (UnreliableLimiter Registry)) (change : Registry → Registry) :
    Gate σ (UnreliableLimiter Registry) :=
  { gate with limiter := { gate.limiter with inner := change gate.registry } }

def after (gate : Gate σ (UnreliableLimiter Registry)) : Event → Gate σ (UnreliableLimiter Registry)
  | .check attempt => (gate.check attempt).2
  | .checkText login password address => (gate.checkText login password address).2
  | .reset request => (gate.reset request).2
  | .rules task => (gate.onRules task).2
  | .setWindow window => (gate.setWindow window).2
  | .advance nanos => gate.onRegistry fun registry => registry.advance nanos
  | .shutdown => gate.onRegistry Registry.shutdown

def run (gate : Gate σ (UnreliableLimiter Registry)) (events : List Event) :
    Gate σ (UnreliableLimiter Registry) :=
  events.foldl after gate

theorem run_append (gate : Gate σ (UnreliableLimiter Registry)) (first second : List Event) :
    gate.run (first ++ second) = (gate.run first).run second :=
  List.foldl_append

/-- The attempts judged in a run, each with the gate that judges it. -/
def judgements (gate : Gate σ (UnreliableLimiter Registry)) :
    List Event → List (Gate σ (UnreliableLimiter Registry) × Attempt)
  | [] => []
  | event :: rest =>
    event.attempt?.toList.map (fun attempt => (gate, attempt)) ++
      judgements (gate.after event) rest

section Text

variable {σ β : Type} [RuleStore σ] [Limiter β] (gate : Gate σ β) {login password address : String}

theorem checkText_of_attempt {attempt : Attempt}
    (asked : (Event.checkText login password address).attempt? = some attempt) :
    (gate.checkText login password address).2 = (gate.check attempt).2 := by
  rw [Event.attempt?] at asked
  rw [checkText]
  cases parsed : Address.parse address with
  | error fault =>
    rw [parsed] at asked
    cases asked
  | ok address =>
    rw [parsed] at asked
    rw [← Option.some.inj asked]

/-- Judging without a judgement is nothing. -/
theorem checkText_of_none
    (nothing : (Event.checkText login password address).attempt? = none) :
    (gate.checkText login password address).2 = gate := by
  rw [Event.attempt?] at nothing
  rw [checkText]
  cases parsed : Address.parse address with
  | error fault => rfl
  | ok address =>
    rw [parsed] at nothing
    cases nothing

end Text

variable {gate : Gate σ (UnreliableLimiter Registry)} {event : Event}

theorem after_of_attempt {attempt : Attempt} (asked : event.attempt? = some attempt) :
    gate.after event = (gate.check attempt).2 := by
  cases event with
  | check other => rw [after, Option.some.inj asked]
  | checkText login password address => exact gate.checkText_of_attempt asked
  | _ => cases asked

/-- A reset is one of the registry, unless the request cannot be read. -/
private theorem after_reset (request : ResetRequest) :
    gate.after (.reset request) =
      match (Event.reset request).resetKey? with
      | some key => gate.onRegistry fun registry => (registry.reset key).2
      | none => gate := by
  rw [after, reset, Event.resetKey?]
  cases request.key <;> rfl

/-- Everything but a judgement asks for no hit and keeps the limits. What it does to the registry is
nothing, the reset of a key, the passing of time, or a shutdown. -/
theorem after_of_none (gate : Gate σ (UnreliableLimiter Registry))
    (nothing : event.attempt? = none) :
    (gate.after event).limiter.hits = gate.limiter.hits ∧
    (gate.after event).limits = gate.limits ∧
    (event.isSteady = true → (gate.after event).window = gate.window) ∧
    ((gate.after event).registry = gate.registry ∨
      (∃ key, event.resetKey? = some key ∧
        (gate.after event).registry = (gate.registry.reset key).2) ∨
      (∃ nanos, (gate.after event).registry = gate.registry.advance nanos) ∨
      event.isSteady = false ∧ (gate.after event).registry = gate.registry.shutdown) := by
  cases event with
  | check attempt => cases nothing
  | checkText login password address =>
    rw [after, gate.checkText_of_none nothing]
    exact ⟨rfl, rfl, fun _ => rfl, .inl rfl⟩
  | reset request =>
    rw [after_reset]
    cases (Event.reset request).resetKey? with
    | none => exact ⟨rfl, rfl, fun _ => rfl, .inl rfl⟩
    | some key => exact ⟨rfl, rfl, fun _ => rfl, .inr (.inl ⟨key, rfl, rfl⟩)⟩
  | rules task => exact ⟨rfl, rfl, fun _ => rfl, .inl rfl⟩
  | setWindow window =>
    rw [after, setWindow]
    cases Window.ofSpan? window <;> exact ⟨rfl, rfl, (nomatch ·), .inl rfl⟩
  | advance nanos => exact ⟨rfl, rfl, fun _ => rfl, .inr (.inr (.inl ⟨nanos, rfl⟩))⟩
  | shutdown =>
    exact ⟨rfl, rfl, (nomatch ·), .inr (.inr (.inr ⟨rfl, rfl⟩))⟩

theorem now_le_after (gate : Gate σ (UnreliableLimiter Registry)) (event : Event) :
    gate.registry.now ≤ (gate.after event).registry.now := by
  cases asked : event.attempt? with
  | some attempt =>
    obtain ⟨_, counted, _, decides, -⟩ := gate.exists_decides attempt
    rw [after_of_attempt asked, decides.check_eq]
    exact Nat.le_of_eq (now_countAll counted).symm
  | none =>
    obtain ⟨-, -, -, same | ⟨_, -, same⟩ | ⟨nanos, same⟩ | ⟨-, same⟩⟩ :=
      gate.after_of_none asked
    · exact Nat.le_of_eq (congrArg Registry.now same).symm
    · exact Nat.le_of_eq (congrArg Registry.now same).symm
    · rw [same]
      exact Nat.le_add_right _ _
    · exact Nat.le_of_eq (congrArg Registry.now same).symm

/-- Hits are only added. -/
theorem hits_le_after (gate : Gate σ (UnreliableLimiter Registry)) (event : Event) :
    gate.limiter.hits ≤ (gate.after event).limiter.hits := by
  cases asked : event.attempt? with
  | some attempt =>
    obtain ⟨_, _, _, decides, -⟩ := gate.exists_decides attempt
    rw [after_of_attempt asked, decides.check_eq]
    exact Nat.le_add_right _ _
  | none => exact Nat.le_of_eq (gate.after_of_none asked).1.symm

/-- What no event lowers is not lowered by a run. -/
private theorem le_run (measure : Gate σ (UnreliableLimiter Registry) → Nat)
    (step : ∀ gate event, measure gate ≤ measure (gate.after event))
    (gate : Gate σ (UnreliableLimiter Registry)) (events : List Event) :
    measure gate ≤ measure (gate.run events) := by
  induction events generalizing gate with
  | nil => exact Nat.le_refl _
  | cons event rest ih => exact Nat.le_trans (step gate event) (ih _)

theorem now_le_run (gate : Gate σ (UnreliableLimiter Registry)) (events : List Event) :
    gate.registry.now ≤ (gate.run events).registry.now :=
  le_run (fun gate => gate.registry.now) now_le_after gate events

theorem hits_le_run (gate : Gate σ (UnreliableLimiter Registry)) (events : List Event) :
    gate.limiter.hits ≤ (gate.run events).limiter.hits :=
  le_run (fun gate => gate.limiter.hits) hits_le_after gate events

end Gate
end LoginGate
