import LoginGate.Proofs.Gate.Beside
import LoginGate.Proofs.Gate.Origin
import LoginGate.Proofs.Gate.Reset
import LoginGate.Proofs.Registry.Renaming

/-! # Logins and passwords are opaque

A gate does not look into logins and passwords. If all logins get new names, different logins
different ones, and all passwords likewise, then every attempt is judged as before, every reset finds
what it found before, and the tally and the number of live buckets are the same at every step.
-/

namespace LoginGate

/-- New names for logins and for passwords. -/
structure Pseudonyms where
  login : String → String
  password : String → String
  login_injective : Function.Injective login
  password_injective : Function.Injective password

namespace Pseudonyms

variable (names : Pseudonyms)

/-- The new name of a value; addresses keep theirs. -/
def value : Aspect → String → String
  | .login => names.login
  | .password => names.password
  | .address => id

def attempt (attempt : Attempt) : Attempt :=
  { attempt with login := names.login attempt.login, password := names.password attempt.password }

/-- The wish to reset under new names: only logins have one. -/
def request (request : ResetRequest) : ResetRequest :=
  if request.parameter = "login" then { request with value := names.login request.value }
  else request

def event : Gate.Event → Gate.Event
  | .check attempt => .check (names.attempt attempt)
  | .checkText login password address =>
    .checkText (names.login login) (names.password password) address
  | .reset request => .reset (names.request request)
  | other => other

/-! ## Keys -/

/-- The key of an aspect and a value. -/
private def keyOf (named : Aspect × String) : String :=
  named.1.key named.2

private theorem keyOf_injective : Function.Injective keyOf := by
  rintro ⟨aspect, value⟩ ⟨other, otherValue⟩ same
  obtain ⟨rfl, rfl⟩ := Aspect.key_inj.mp same
  rfl

/-- The new key: that of the aspect and the new name. Texts that are no keys stay. -/
noncomputable def key : String → String :=
  Function.extend keyOf (fun named => named.1.key (names.value named.1 named.2)) id

theorem value_injective (aspect : Aspect) : Function.Injective (names.value aspect) := by
  cases aspect with
  | login => exact names.login_injective
  | password => exact names.password_injective
  | address => exact Function.injective_id

theorem key_key (aspect : Aspect) (value : String) :
    names.key (aspect.key value) = aspect.key (names.value aspect value) :=
  keyOf_injective.extend_apply _ id (aspect, value)

private theorem key_of_unnamed {text : String} (unnamed : ¬ ∃ named, keyOf named = text) :
    names.key text = text :=
  Function.extend_apply' _ id text unnamed

/-- New keys are keys of the same aspects, so none is also a text that stays. -/
theorem key_injective : Function.Injective names.key := by
  intro first second same
  by_cases named : ∃ origin, keyOf origin = first
  · obtain ⟨⟨aspect, value⟩, rfl⟩ := named
    by_cases named' : ∃ origin, keyOf origin = second
    · obtain ⟨⟨other, otherValue⟩, rfl⟩ := named'
      rw [keyOf, keyOf, key_key, key_key] at same
      obtain ⟨rfl, values⟩ := Aspect.key_inj.mp same
      exact congrArg (fun value => keyOf (aspect, value)) (names.value_injective aspect values)
    · rw [keyOf, key_key, names.key_of_unnamed named'] at same
      exact absurd ⟨(aspect, names.value aspect value), same⟩ named'
  · by_cases named' : ∃ origin, keyOf origin = second
    · obtain ⟨⟨other, value⟩, rfl⟩ := named'
      rw [keyOf, key_key, names.key_of_unnamed named] at same
      exact absurd ⟨(other, names.value other value), same.symm⟩ named
    · rwa [names.key_of_unnamed named, names.key_of_unnamed named'] at same

/-- The keys of an attempt are those of the attempt under new names, renamed. -/
theorem linked_attempt (attempt : Attempt) :
    attempt.Linked (fun key key' => names.key key = key') (names.attempt attempt) where
  address := rfl
  keys aspect := by
    rw [Attempt.key, key_key]
    cases aspect <;> rfl

theorem key_request (request : ResetRequest) :
    (names.request request).key = request.key.map names.key := by
  by_cases login : request.parameter = "login"
  · have read : request.key = .ok (Aspect.login.key request.value) :=
      ResetRequest.key_eq_ok_iff.mpr (.inl ⟨login, rfl⟩)
    have read' : (names.request request).key = .ok (Aspect.login.key (names.login request.value)) := by
      rw [Pseudonyms.request, if_pos login]
      exact ResetRequest.key_eq_ok_iff.mpr (.inl ⟨login, rfl⟩)
    rw [read, read', Except.map, key_key]
    rfl
  · rw [Pseudonyms.request, if_neg login]
    cases read : request.key with
    | error fault => rfl
    | ok key =>
      rcases ResetRequest.key_eq_ok_iff.mp read with ⟨named, -⟩ | ⟨-, address, -, rfl⟩
      · exact absurd named login
      · rw [Except.map, key_key]
        rfl

end Pseudonyms

/-! ## Limiters -/

namespace UnreliableLimiter

/-- A limiter that fails at the same hits, and has the same buckets under new keys. -/
structure Renames (rename : String → String) (limiter limiter' : UnreliableLimiter Registry) :
    Prop where
  plan : limiter.plan = limiter'.plan
  hits : limiter.hits = limiter'.hits
  inner : Registry.Renames rename limiter.inner limiter'.inner

theorem alike_renames {rename : String → String} (injective : Function.Injective rename) :
    Limiter.Alike (fun key key' => rename key = key') (Renames rename) := by
  rintro key _ limits limiter limiter' rfl ⟨plan, hits, inner⟩
  obtain ⟨same, counted⟩ := inner.hit injective key limits
  cases planned : limiter'.plan limiter'.hits with
  | some fault =>
    simp only [Limiter.hit, plan, hits, planned]
    exact ⟨trivial, rfl, rfl, inner⟩
  | none =>
    simp only [Limiter.hit, plan, hits, planned]
    exact ⟨same, rfl, rfl, counted⟩

end UnreliableLimiter

namespace Gate

/-! ## What is told -/

/-- What a gate tells when something happens to it; of an outcome, all but the message, which quotes
the login or the password. -/
inductive Told where
  | outcome (admitted : Bool) (reason : Option DenyReason) (code : Option Nat)
  | found (found : Bool)
  | refused (fault : GateFault)
  | rules (result : Except RuleFault Unit)
  | nothing
  deriving DecidableEq

namespace Told

def ofOutcome (outcome : Outcome) : Told :=
  .outcome outcome.admitted outcome.reason outcome.code

/-- What is told of a result, if it is no failure. -/
def ofResult {α : Type} (told : α → Told) : Except GateFault α → Told
  | .ok value => told value
  | .error fault => refused fault

/-- Apart from the message, an outcome is a matter of the reason. -/
theorem ofOutcome_eq_of_sameReason {attempt attempt' : Attempt} {outcome outcome' : Outcome}
    (same : SameReason attempt attempt' outcome outcome') : ofOutcome outcome = ofOutcome outcome' := by
  obtain ⟨reason, rfl, rfl⟩ := same
  rcases reason with _ | _ | ⟨⟨⟩⟩ | _ <;> rfl

end Told

variable {σ : Type} [RuleStore σ]

/-- What is told when something happens. -/
def told (gate : Gate σ (UnreliableLimiter Registry)) : Event → Told
  | .check attempt => .ofOutcome (gate.check attempt).1
  | .checkText login password address =>
    .ofResult .ofOutcome (gate.checkText login password address).1
  | .reset request => .ofResult .found (gate.reset request).1
  | .rules task => .rules (gate.onRules task).1
  | .setWindow window => .ofResult (fun () => .nothing) (gate.setWindow window).1
  | .advance _ | .shutdown => .nothing

/-- What is told in a run, step by step, with the tally and the number of live buckets after each
step. -/
def transcript (gate : Gate σ (UnreliableLimiter Registry)) :
    List Event → List (Told × Tally × Nat)
  | [] => []
  | event :: rest =>
    (gate.told event, (gate.after event).tally, (gate.after event).registry.size) ::
      transcript (gate.after event) rest

/-! ## Steps and runs -/

variable {names : Pseudonyms} {gate gate' : Gate σ (UnreliableLimiter Registry)}

/-- The gate has the same buckets as another one under new names, and is the same otherwise. -/
@[reducible]
def Renames (names : Pseudonyms) (gate gate' : Gate σ (UnreliableLimiter Registry)) : Prop :=
  gate.Beside Eq (UnreliableLimiter.Renames names.key) gate'

/-- The same is told under new names, one kind of event after the other. -/
private theorem Renames.step (renames : gate.Renames names gate') (event : Event) :
    gate.told event = gate'.told (names.event event) ∧
      (gate.after event).Renames names (gate'.after (names.event event)) := by
  have judged (attempt : Attempt) :=
    renames.check RuleStore.alike_eq (UnreliableLimiter.alike_renames names.key_injective)
      (names.linked_attempt attempt)
  cases event with
  | check attempt =>
    obtain ⟨same, beside⟩ := judged attempt
    exact ⟨Told.ofOutcome_eq_of_sameReason same, beside⟩
  | checkText login password address =>
    rw [Pseudonyms.event, told, told, after, after, checkText, checkText]
    cases Address.parse address with
    | error fault => exact ⟨rfl, renames⟩
    | ok address =>
      obtain ⟨same, beside⟩ := judged ⟨login, password, address⟩
      exact ⟨Told.ofOutcome_eq_of_sameReason same, beside⟩
  | reset request =>
    rw [Pseudonyms.event, told, told, after, after, reset, reset, names.key_request]
    cases request.key with
    | error fault => exact ⟨rfl, renames⟩
    | ok key =>
      obtain ⟨store, ⟨plan, hits, inner⟩, window, limits, tally⟩ := renames
      obtain ⟨found, forgotten⟩ := inner.reset names.key_injective key
      exact ⟨congrArg Told.found found, store, ⟨plan, hits, forgotten⟩, window, limits, tally⟩
  | rules task =>
    obtain ⟨store, limiter, window, limits, tally⟩ := renames
    have same : names.event (.rules task) = .rules task := rfl
    rw [same, told, told, after, after, onRules, onRules, store]
    exact ⟨rfl, rfl, limiter, window, limits, tally⟩
  | setWindow length =>
    obtain ⟨store, limiter, window, limits, tally⟩ := renames
    have same : names.event (.setWindow length) = .setWindow length := rfl
    rw [same, told, told, after, after, setWindow, setWindow]
    cases Window.ofSpan? length with
    | none => exact ⟨rfl, store, limiter, window, limits, tally⟩
    | some next => exact ⟨rfl, store, limiter, rfl, limits, tally⟩
  | advance nanos =>
    obtain ⟨store, ⟨plan, hits, inner⟩, window, limits, tally⟩ := renames
    exact ⟨rfl, store, ⟨plan, hits, inner.advance nanos⟩, window, limits, tally⟩
  | shutdown =>
    obtain ⟨store, ⟨plan, hits, inner⟩, window, limits, tally⟩ := renames
    exact ⟨rfl, store, ⟨plan, hits, inner.shutdown⟩, window, limits, tally⟩

private theorem Renames.transcript_eq (renames : gate.Renames names gate') (events : List Event) :
    gate.transcript events = gate'.transcript (events.map names.event) := by
  induction events generalizing gate gate' with
  | nil => rfl
  | cons event rest ih =>
    obtain ⟨told, after⟩ := renames.step event
    have size := after.limiter.inner.size names.key_injective
    rw [transcript, List.map_cons, transcript, told, after.tally, ih after]
    exact congrArg (fun live => (_, _, live) :: _) size

/-- Whatever new names logins and passwords get, each step of a run tells the same as before: of
attempts whether they are admitted, or the reason why not and its number, of resets whether they find
a live bucket, and all errors. The tally and the number of live buckets are the same after each
step. -/
theorem transcript_of_pseudonyms (names : Pseudonyms) (store : σ) (plan : Nat → Option LimitsFault)
    (span : Duration) (limits : AttemptLimits) (start : Gate σ (UnreliableLimiter Registry))
    (built : Gate.build store { inner := Registry.empty, plan } span limits = .ok start)
    (events : List Event) :
    start.transcript (events.map names.event) = start.transcript events := by
  obtain ⟨window, rfl, -⟩ := exists_fresh_of_build built
  have renames : (fresh store plan window limits).Renames names (fresh store plan window limits) :=
    ⟨rfl, ⟨rfl, rfl, .empty _⟩, rfl, rfl, rfl⟩
  exact (renames.transcript_eq events).symm

/-- Even if logins are made to look like keys of addresses and passwords end in a line break, the
second attempt is past the limit of its login, and the reset of the login finds its hits. -/
theorem transcript_of_pseudonyms_like_keys :
    let names : Pseudonyms :=
      { login := ("ip_" ++ ·)
        password := (· ++ "\n")
        login_injective := fun _ _ same => String.append_right_inj _ |>.mp same
        password_injective := fun _ _ same => String.append_left_inj _ |>.mp same }
    let attempt : Attempt := ⟨"root", "guess", ⟨.v4, 0, by decide⟩⟩
    let events := [Event.check attempt, .check attempt, .reset ⟨"login", "root"⟩,
      .reset ⟨"login", "root"⟩, .setWindow (.ofNanos 0), .advance 350]
    let limiter : UnreliableLimiter Registry := { inner := .empty, plan := fun _ => none }
    ∃ start, Gate.build (MemoryStore.empty ⟨0, 0⟩ RuleId.ofNat) limiter (.ofNanos 100)
        { login := 1 } = .ok start ∧
      start.transcript (events.map names.event) =
        [(.outcome true none none, ⟨1, 0, 0, 0⟩, 3),
          (.outcome false (some (.limit .login)) (some 3003), ⟨1, 0, 1, 0⟩, 3),
          (.found true, ⟨1, 0, 1, 0⟩, 2), (.found false, ⟨1, 0, 1, 0⟩, 2),
          (.refused .zeroWindow, ⟨1, 0, 1, 0⟩, 2), (.nothing, ⟨1, 0, 1, 0⟩, 0)] := by
  intro names attempt events limiter
  let start : Gate MemoryStore (UnreliableLimiter Registry) :=
    { store := .empty ⟨0, 0⟩ RuleId.ofNat, limiter, window := ⟨100, by decide, by decide⟩
      limits := { login := 1 } }
  refine ⟨start, rfl, ?_⟩
  rw [transcript_of_pseudonyms names _ (fun _ => none) (.ofNanos 100) { login := 1 } start rfl events]
  decide +kernel

end Gate
end LoginGate
