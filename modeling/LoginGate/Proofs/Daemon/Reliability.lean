import LoginGate.Proofs.Gate.Questions
import LoginGate.Proofs.Gate.Run
import LoginGate.Proofs.Settings.Completion
import LoginGate.Settings
import LoginGate.Settings.Text

/-! # A daemon has no failures of its own

Whatever integers the settings have for its limits, a daemon over rules in memory can be made from
them, and its limits are positive. Rules in memory are always found, windows are positive by
construction and the limits never change, so no judgement of the daemon ends as an internal error.
-/

namespace LoginGate

/-! ## Settings -/

namespace Settings

/-- Settings that a daemon starts with: the default ones, or those read from a text. -/
def Accepted (settings : Settings) : Prop :=
  settings = .default ∨ ∃ text, ofText text = .ok settings

theorem Accepted.exists_completed {settings : Settings} (accepted : settings.Accepted) :
    ∃ written : Settings, settings = written.completed := by
  rcases accepted with rfl | ⟨text, read⟩
  · exact ⟨{}, rfl⟩
  · rw [ofText] at read
    split at read
    · cases read
    · next written _ =>
      split at read
      · cases read
      · exact ⟨written, (Except.ok.inj read).symm⟩

theorem Accepted.limits_pos {settings : Settings} (accepted : settings.Accepted)
    (field : LimitField) : 0 < settings.limits.get field := by
  obtain ⟨written, rfl⟩ := accepted.exists_completed
  exact written.get_completed_pos field

end Settings

theorem LimitSettings.effective_eq {limits : LimitSettings} {field : LimitField}
    (positive : 0 < limits.get field) : (limits.effective field : Int) = limits.get field := by
  rw [effective_of_pos positive]
  omega

namespace Daemon

open Procedure

/-! ## Runs -/

inductive Event where
  | gate (event : Gate.Event)
  /-- New rules are stamped with another time from now on. -/
  | clock (now : Timestamp)

/-- The attempt that an event asks the daemon to judge. -/
def Event.attempt? : Event → Option Attempt
  | gate event => event.attempt?
  | clock _ => none

variable (gate : Gate MemoryStore Registry)

/-- The daemon after an event. -/
def after : Event → Gate MemoryStore Registry
  | .gate (.check attempt) => (gate.check attempt).2
  | .gate (.checkText login password address) => (gate.checkText login password address).2
  | .gate (.reset request) => (gate.reset request).2
  | .gate (.rules task) => (gate.onRules task).2
  | .gate (.setWindow window) => (gate.setWindow window).2
  | .gate (.advance nanos) => { gate with limiter := gate.limiter.advance nanos }
  | .gate .shutdown => shutdown gate
  | .clock now => { gate with store := { gate.store with now } }

def run (events : List Event) : Gate MemoryStore Registry :=
  events.foldl after gate

/-- The attempts judged in a run, each with the daemon that judges it. -/
def judgements (gate : Gate MemoryStore Registry) :
    List Event → List (Gate MemoryStore Registry × Attempt)
  | [] => []
  | event :: rest =>
    event.attempt?.toList.map (fun attempt => (gate, attempt)) ++ judgements (after gate event) rest

/-- The calls that a judgement of an attempt makes. -/
def calls (attempt : Attempt) : List GateCall :=
  (Gate.judge gate.limits gate.window attempt).calls Gate.answer (gate.store, gate.limiter)

variable {gate} {event : Event}

theorem after_of_attempt {attempt : Attempt} (asked : event.attempt? = some attempt) :
    after gate event = (gate.check attempt).2 := by
  cases event with
  | clock now => cases asked
  | gate event =>
    cases event with
    | check other => rw [after, Option.some.inj asked]
    | checkText login password address => exact gate.checkText_of_attempt asked
    | _ => cases asked

/-- Everything but a judgement leaves the limits and the tally alone. -/
theorem after_of_none (nothing : event.attempt? = none) :
    (after gate event).limits = gate.limits ∧ (after gate event).tally = gate.tally := by
  cases event with
  | clock now => exact ⟨rfl, rfl⟩
  | gate event =>
    cases event with
    | check attempt => cases nothing
    | checkText login password address =>
      rw [after, gate.checkText_of_none nothing]
      exact ⟨rfl, rfl⟩
    | reset request =>
      rw [after, Gate.reset]
      cases request.key <;> exact ⟨rfl, rfl⟩
    | rules task => exact ⟨rfl, rfl⟩
    | setWindow window =>
      rw [after, Gate.setWindow]
      cases Window.ofSpan? window <;> exact ⟨rfl, rfl⟩
    | advance nanos => exact ⟨rfl, rfl⟩
    | shutdown => exact ⟨rfl, rfl⟩

/-! ## Judgements -/

/-- Rules in memory and a registry answer every call of a judgement. -/
private theorem not_failed_answer {limits : AttemptLimits}
    (positive : ∀ aspect, 0 < limits.of aspect) (call : GateCall) (state : MemoryStore × Registry)
    (asked : Gate.Asks limits call) : ¬ call.Failed (Gate.answer call state).1 := by
  cases call with
  | rules call =>
    rintro ⟨fault, failed⟩
    cases call <;> cases failed
  | hit key given => exact Gate.not_failed_hit positive asked state.2

/-- A daemon that has its limits and has not failed internally. -/
structure Healthy (limits : AttemptLimits) (gate : Gate MemoryStore Registry) : Prop where
  limits_eq : gate.limits = limits
  internalErrors_eq : gate.tally.internalErrors = 0

namespace Healthy

variable {limits : AttemptLimits} (positive : ∀ aspect, 0 < limits.of aspect)
include positive

/-- A judgement does not fail, and hits keys with limits that can be used. -/
theorem judge (healthy : Healthy limits gate) (attempt : Attempt) :
    (gate.check attempt).1.reason ≠ some .internal ∧
      ∀ call ∈ calls gate attempt, Gate.Asks limits call := by
  obtain ⟨rfl, -⟩ := healthy
  have keeps : Keeps (Gate.Asks gate.limits) (fun call reply => ¬ call.Failed reply)
      (fun outcome => outcome.reason ≠ some .internal)
      (Gate.judge gate.limits gate.window attempt) := by
    refine Gate.keeps_judge nofun nofun (fun aspect => ?_) fun call reply relied failed => ?_
    · cases aspect <;> exact nofun
    · exact absurd failed relied
  have reliable := not_failed_answer positive
  exact ⟨keeps.run reliable (gate.store, gate.limiter),
    keeps.asks_of_mem_calls reliable (gate.store, gate.limiter)⟩

/-- No event harms the daemon. -/
theorem after (healthy : Healthy limits gate) (event : Event) :
    Healthy limits (after gate event) := by
  cases asked : event.attempt? with
  | none =>
    obtain ⟨limits_eq, tally_eq⟩ : (Daemon.after gate event).limits = gate.limits ∧
        (Daemon.after gate event).tally = gate.tally := after_of_none asked
    exact ⟨limits_eq.trans healthy.limits_eq, by rw [tally_eq, healthy.internalErrors_eq]⟩
  | some attempt =>
    rw [after_of_attempt asked]
    refine ⟨healthy.limits_eq, ?_⟩
    have other : Tally.Counter.internalErrors ≠ .of (gate.check attempt).1.reason := fun moved =>
      (healthy.judge positive attempt).1 (Tally.Counter.of_eq_iff.2.2.2.mp moved.symm)
    have kept := Tally.read_record gate.tally (gate.check attempt).1 .internalErrors
    rw [if_neg other] at kept
    exact kept.trans healthy.internalErrors_eq

theorem run (healthy : Healthy limits gate) (events : List Event) :
    Healthy limits (run gate events) := by
  induction events generalizing gate with
  | nil => exact healthy
  | cons event rest ih => exact ih (healthy.after positive event)

/-- Every judgement of a run is made by a daemon that has not failed. -/
theorem of_mem_judgements (healthy : Healthy limits gate) {events : List Event}
    {judge : Gate MemoryStore Registry} {attempt : Attempt}
    (member : (judge, attempt) ∈ judgements gate events) : Healthy limits judge := by
  induction events generalizing gate with
  | nil => cases member
  | cons event rest ih =>
    rcases List.mem_append.mp member with now | later
    · obtain ⟨_, -, same⟩ := List.mem_map.mp now
      rwa [← (Prod.mk.inj same).1]
    · exact ih (healthy.after positive event) later

end Healthy

/-- Settings for rules in memory make a daemon, with the limits of the settings. -/
private theorem exists_start (settings : Settings) (memory : settings.storage.kind = .memory)
    (store : MemoryStore) :
    ∃ window : Window,
      window.nanos = min (settings.limits.effective .window * 1_000_000) (wordSize - 1) ∧
      start settings store =
        .ok { store, limiter := .empty, window, limits := settings.limits.attemptLimits } := by
  have positive := settings.limits.effective_pos .window
  have nanos : settings.limits.span.nanos =
      min (settings.limits.effective .window * 1_000_000) Duration.maxNanos := rfl
  have long : wordSize - 1 ≤ Duration.maxNanos := by decide
  have some : 0 < settings.limits.span.nanos := by
    have inWord : 0 < wordSize - 1 := by decide
    omega
  obtain ⟨window, made, length⟩ := Window.exists_ofSpan? some
  refine ⟨window, by omega, ?_⟩
  rw [start, memory, Gate.build, made]
  rfl

/-- A daemon over rules in memory starts from any settings that are accepted, and takes over limits
that are positive. From then on nothing fails internally, whatever is asked of it: no attempt that is
judged is denied for that reason, the counter of failures stays zero, and all limits that the
registry is given can be used. -/
theorem start_without_failures (settings : Settings) (accepted : settings.Accepted)
    (memory : settings.storage.kind = .memory) (store : MemoryStore) :
    ∃ gate, start settings store = .ok gate ∧
      (gate.window.nanos = min (settings.limits.window.toNat * 1_000_000) (wordSize - 1) ∧
        (gate.limits.login : Int) = settings.limits.login ∧
        (gate.limits.password : Int) = settings.limits.password ∧
        (gate.limits.address : Int) = settings.limits.address) ∧
      ∀ events,
        (∀ judged ∈ judgements gate events,
          (judged.1.check judged.2).1.reason ≠ some .internal ∧
          ∀ key limits, GateCall.hit key limits ∈ calls judged.1 judged.2 →
            limits.validate = .ok limits) ∧
        (run gate events).tally.internalErrors = 0 := by
  obtain ⟨window, nanos, made⟩ := exists_start settings memory store
  have kept (field : LimitField) := LimitSettings.effective_eq (accepted.limits_pos field)
  have limit_pos (aspect : Aspect) : 0 < settings.limits.attemptLimits.of aspect := by
    cases aspect <;> exact settings.limits.effective_pos _
  have healthy : Healthy settings.limits.attemptLimits
      { store, limiter := .empty, window, limits := settings.limits.attemptLimits } := ⟨rfl, rfl⟩
  refine ⟨_, made, ⟨?_, kept .login, kept .password, kept .address⟩, fun events => ⟨?_, ?_⟩⟩
  · have same := kept .window
    rw [LimitSettings.get] at same
    rw [nanos, ← same, Int.toNat_natCast]
  · rintro ⟨judge, attempt⟩ member
    obtain ⟨sound, asks⟩ :=
      (healthy.of_mem_judgements limit_pos member).judge limit_pos attempt
    refine ⟨sound, fun key limits asked => ?_⟩
    obtain ⟨aspect, _, window, -, rfl⟩ := asks _ asked
    exact (Gate.usable_limitsFor limit_pos window aspect).validate
  · exact (healthy.run limit_pos events).internalErrors_eq

/-- Two of the limits are replaced and the window is cut to 64 bits. Later the window cannot be set
to nothing, but to one nanosecond. -/
theorem start_without_failures_of_odd_limits :
    ∃ settings, Settings.ofText "limits = [0, -5, 7, 9223372036854775807]" = .ok settings ∧
      settings.storage.kind = .memory ∧
      ∃ gate, start settings (.empty ⟨0, 0⟩ RuleId.ofNat) = .ok gate ∧
        gate.window.nanos = wordSize - 1 ∧
        (gate.limits.login : Int) = 10 ∧ (gate.limits.address : Int) = 7 ∧
        (run gate [.gate (.setWindow ⟨0, by decide⟩), .gate (.setWindow ⟨1, by decide⟩),
          .gate (.checkText "root" "guess" "::1"), .clock ⟨5, 0⟩, .gate (.advance 7),
          .gate (.checkText "root" "guess" "::1")]).tally.internalErrors = 0 := by
  let settings : Settings :=
    { limits := ⟨10, 100, 7, 9223372036854775807⟩
      notes := ["limits.login_per_window is 0, using default 10",
        "limits.password_per_window is -5, using default 100"] }
  have read : Settings.ofText "limits = [0, -5, 7, 9223372036854775807]" = .ok settings :=
    by decide +kernel
  obtain ⟨gate, made, ⟨nanos, login, -, address⟩, law⟩ :=
    start_without_failures settings (.inr ⟨_, read⟩) rfl (.empty ⟨0, 0⟩ RuleId.ofNat)
  exact ⟨settings, read, rfl, gate, made, nanos.trans (by decide), login, address, (law _).2⟩

end Daemon
end LoginGate
