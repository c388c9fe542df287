import LoginGate.Proofs.Gate.Run
import LoginGate.Proofs.Registry.Limits
import LoginGate.Proofs.Registry.Metering

/-! # A bound on guessing

Whoever tries many passwords on one login, or one password on many logins, or tries from one
address, gets no more attempts through than the limits allow: in any span of some windows, no more
than one window more lets through. A key whose bucket expired and was made anew in the meantime is
no exception.
-/

namespace LoginGate.Gate

section

variable {σ : Type} [RuleStore σ]

/-- A gate before its first event. -/
def fresh (store : σ) (plan : Nat → Option LimitsFault) (window : Window) (limits : AttemptLimits) :
    Gate σ (UnreliableLimiter Registry) :=
  { store, limiter := { inner := .empty, plan }, window, limits }

variable [LawfulStore σ]

/-- The time of a judgement, if it is about some value of an aspect and the limits admit the
attempt. -/
def admission? (aspect : Aspect) (value : String) :
    Gate σ (UnreliableLimiter Registry) × Attempt → Option Nat
  | (gate, attempt) =>
    if attempt.value aspect = value ∧ gate.Admits attempt then some gate.registry.now else none

/-- The times at which the limits admit attempts with some value of an aspect in a run. -/
def admissions (gate : Gate σ (UnreliableLimiter Registry)) (aspect : Aspect) (value : String)
    (events : List Event) : List Nat :=
  (gate.judgements events).filterMap (admission? aspect value)

private theorem admissions_cons (gate : Gate σ (UnreliableLimiter Registry)) (aspect : Aspect)
    (value : String) (event : Event) (rest : List Event) :
    gate.admissions aspect value (event :: rest) =
      (event.attempt?.bind fun attempt => admission? aspect value (gate, attempt)).toList ++
        (gate.after event).admissions aspect value rest := by
  rw [admissions, judgements, List.filterMap_append, admissions]
  cases event.attempt? with
  | none => rfl
  | some attempt =>
    cases admitted : admission? aspect value (gate, attempt) <;> simp [admitted]

/-- The gate counts what passed for a value of an aspect, with the limits that it has for it. -/
structure Meters (gate : Gate σ (UnreliableLimiter Registry)) (aspect : Aspect) (value : String)
    (limits : Limits) (passes : List Pass) : Prop where
  limits_eq : limitsFor gate.limits gate.window aspect = limits
  registry : gate.registry.Meters (aspect.key value) limits gate.limiter.hits passes

namespace Meters

variable {gate : Gate σ (UnreliableLimiter Registry)} {aspect : Aspect} {value : String}
  {limits : Limits} {passes : List Pass} {attempt : Attempt}

omit [RuleStore σ] [LawfulStore σ] in
private theorem short (meters : gate.Meters aspect value limits passes) :
    limits.period.nanos ≤ wordSize := by
  rw [← meters.limits_eq]
  exact Nat.le_of_lt gate.window.nanos_lt

/-- What the limits admit passes for each of its values. -/
private theorem check_admits (meters : gate.Meters aspect (attempt.value aspect) limits passes)
    (early : gate.registry.now < wordSize) (room : (gate.check attempt).2.limiter.hits < wordSize)
    (admits : gate.Admits attempt) :
    ∃ ends, (gate.check attempt).2.Meters aspect (attempt.value aspect) limits
      (⟨gate.registry.now, ends⟩ :: passes) := by
  have short := meters.short
  obtain ⟨rfl, registry⟩ := meters
  obtain ⟨settled, decides⟩ := admits.decides
  have member : aspect ∈ Aspect.all := by cases aspect <;> decide
  have counted := settled.bucket?_measured member
  rw [decides.check_eq] at room ⊢
  have more : gate.limiter.hits + 3 < wordSize := room
  have passed := registry.pass_hit short early (by omega) (now_countAll _) counted
    (settled.isFull_eq_false member)
  exact ⟨_, rfl, passed.frame rfl rfl (Nat.add_le_add_left (by decide) _)⟩

omit [LawfulStore σ] in
/-- Whatever comes of a judgement, what passed before remains counted. -/
private theorem check (meters : gate.Meters aspect value limits passes)
    (early : gate.registry.now < wordSize)
    (room : (gate.check attempt).2.limiter.hits < wordSize) :
    (gate.check attempt).2.Meters aspect value limits passes := by
  have short := meters.short
  obtain ⟨rfl, registry⟩ := meters
  obtain ⟨asked, counted, reason, decides, cause⟩ := gate.exists_decides attempt
  rw [decides.check_eq] at room ⊢
  refine ⟨rfl, ?_⟩
  have more : gate.limiter.hits + asked.length < wordSize := room
  by_cases own : ∃ other ∈ counted, attempt.key other = aspect.key value
  · obtain ⟨other, member, same⟩ := own
    obtain ⟨rfl, rfl⟩ := Aspect.key_inj.mp same
    rcases cause with nothing | settled
    · rw [nothing] at member
      cases member
    · have counts := settled.bucket?_measured member
      have some : 0 < asked.length := settled.asked_pos member
      have kept := registry.hit short early (by omega) (now_countAll _) counts
      exact kept.frame rfl rfl (Nat.add_le_add_left some _)
  · have others : ∀ other ∈ counted, attempt.key other ≠ aspect.key value :=
      fun other member same => own ⟨other, member, same⟩
    exact registry.frame (bucket?_countAll_of_ne others) (now_countAll _) (Nat.le_add_right _ _)

/-- A judgement adds what it admits to what passed. -/
private theorem judge (meters : gate.Meters aspect value limits passes)
    (early : gate.registry.now < wordSize)
    (room : (gate.check attempt).2.limiter.hits < wordSize) :
    ∃ more, (gate.check attempt).2.Meters aspect value limits (more ++ passes) ∧
      more.map Pass.time = (admission? aspect value (gate, attempt)).toList := by
  rw [admission?]
  split
  · next admitted =>
    obtain ⟨rfl, admits⟩ := admitted
    obtain ⟨ends, after⟩ := meters.check_admits early room admits
    exact ⟨[⟨gate.registry.now, ends⟩], after, rfl⟩
  · exact ⟨[], meters.check early room, rfl⟩

/-- Every event of a run without changes of the window adds what it admits to what passed. -/
private theorem after (meters : gate.Meters aspect value limits passes) {event : Event}
    (steady : event.isSteady = true) (kept : event.resetKey? ≠ some (aspect.key value))
    (early : (gate.after event).registry.now < wordSize)
    (room : (gate.after event).limiter.hits < wordSize) :
    ∃ more, (gate.after event).Meters aspect value limits (more ++ passes) ∧
      more.map Pass.time = (event.attempt?.bind fun attempt =>
        admission? aspect value (gate, attempt)).toList := by
  cases asked : event.attempt? with
  | some attempt =>
    have before := Nat.lt_of_le_of_lt (now_le_after gate event) early
    rw [after_of_attempt asked] at room ⊢
    exact meters.judge before room
  | none =>
    obtain ⟨hits, limits_eq, window, change⟩ := gate.after_of_none asked
    refine ⟨[], ⟨?_, ?_⟩, rfl⟩
    · rw [limits_eq, window steady]
      exact meters.limits_eq
    · rw [hits]
      rcases change with same | ⟨key, resets, same⟩ | ⟨nanos, same⟩ | ⟨closes, -⟩
      · rw [same]
        exact meters.registry
      · have other : key ≠ aspect.key value := fun equal => kept (equal ▸ resets)
        have alone : (gate.registry.reset key).2.bucket? (aspect.key value) =
            gate.registry.bucket? (aspect.key value) := by
          rw [Registry.bucket?_reset, if_neg other]
        rw [same]
        exact meters.registry.frame alone rfl (Nat.le_refl _)
      · rw [same] at early ⊢
        exact meters.registry.advance meters.short early
      · rw [steady] at closes
        cases closes

private theorem run (meters : gate.Meters aspect value limits passes) {events : List Event}
    (steady : ∀ event ∈ events, event.isSteady = true)
    (kept : ∀ event ∈ events, event.resetKey? ≠ some (aspect.key value))
    (early : (gate.run events).registry.now < wordSize)
    (room : (gate.run events).limiter.hits < wordSize) :
    ∃ more, (gate.run events).Meters aspect value limits (more ++ passes) ∧
      (more.map Pass.time).Perm (gate.admissions aspect value events) := by
  induction events generalizing gate passes with
  | nil => exact ⟨[], meters, .nil⟩
  | cons event rest ih =>
    obtain ⟨first, steady⟩ := List.forall_mem_cons.mp steady
    obtain ⟨here, kept⟩ := List.forall_mem_cons.mp kept
    have soon := Nat.lt_of_le_of_lt (now_le_run (gate.after event) rest) early
    have lower := Nat.lt_of_le_of_lt (hits_le_run (gate.after event) rest) room
    obtain ⟨one, metered, times⟩ := meters.after first here soon lower
    obtain ⟨more, final, perm⟩ := ih metered steady kept early room
    refine ⟨more ++ one, by rw [List.append_assoc]; exact final, ?_⟩
    rw [List.map_append, admissions_cons, ← times]
    exact (perm.append_right _).trans List.perm_append_comm

end Meters

/-- In any span of some windows, the limits admit no more attempts with one value of an aspect than
one more window lets through, as long as the windows keep their length and nobody removes the bucket
of the value. -/
theorem admissions_le (store : σ) (plan : Nat → Option LimitsFault) (window : Window)
    (limits : AttemptLimits) (events : List Event) (aspect : Aspect) (value : String)
    (steady : ∀ event ∈ events, event.isSteady = true)
    (kept : aspect ≠ .password → ∀ event ∈ events, event.resetKey? ≠ some (aspect.key value))
    (elapsed : ((fresh store plan window limits).run events).registry.now < wordSize)
    (few : ((fresh store plan window limits).run events).limiter.hits < wordSize)
    (start windows : Nat) :
    ((fresh store plan window limits).admissions aspect value events).countP
        (fun time => start ≤ time ∧ time < start + windows * window.nanos) ≤
      (windows + 1) * limits.of aspect := by
  have kept : ∀ event ∈ events, event.resetKey? ≠ some (aspect.key value) := by
    intro event member
    by_cases password : aspect = .password
    · subst password
      exact event.resetKey?_ne_password value
    · exact kept password event member
  have begun : (fresh store plan window limits).Meters aspect value
      (limitsFor limits window aspect) [] := ⟨rfl, .empty _ _ _⟩
  obtain ⟨passes, metered, perm⟩ := begun.run steady kept elapsed few
  rw [← perm.countP_eq, List.countP_map]
  have bound := metered.registry.windowed.countP_span_le start windows
  rw [List.append_nil] at bound
  exact bound

/-- Twice the limit gets through within one window's length, two attempts on each side of a
boundary, and a fifth attempt does not. -/
theorem admissions_le_across_boundary :
    let window : Window := ⟨100, by decide, by decide⟩
    let limits : AttemptLimits := { login := 2 }
    let store := MemoryStore.empty ⟨0, 0⟩ RuleId.ofNat
    let attempt : Attempt := ⟨"root", "guess", ⟨.v4, 0, by decide⟩⟩
    let events := [Event.check attempt, .advance 198, .check attempt, .advance 1, .check attempt,
      .advance 1, .check attempt, .advance 1, .check attempt, .check attempt]
    (∀ event ∈ events, event.isSteady = true) ∧
      (∀ event ∈ events, event.resetKey? ≠ some (Aspect.login.key "root")) ∧
      ((fresh store (fun _ => none) window limits).run events).registry.now < wordSize ∧
      ((fresh store (fun _ => none) window limits).run events).limiter.hits < wordSize ∧
      (fresh store (fun _ => none) window limits).admissions .login "root" events =
        [0, 198, 199, 200, 201] ∧
      [0, 198, 199, 200, 201].countP (fun time => 150 ≤ time ∧ time < 150 + 1 * 100) ≤
        (1 + 1) * 2 := by
  intro window limits store attempt events
  have steady : ∀ event ∈ events, event.isSteady = true := by decide
  have kept : ∀ event ∈ events, event.resetKey? ≠ some (Aspect.login.key "root") := by
    decide +kernel
  have elapsed : ((fresh store (fun _ => none) window limits).run events).registry.now <
      wordSize := by decide +kernel
  have few : ((fresh store (fun _ => none) window limits).run events).limiter.hits <
      wordSize := by decide +kernel
  have times : (fresh store (fun _ => none) window limits).admissions .login "root" events =
      [0, 198, 199, 200, 201] := by decide +kernel
  have bound := admissions_le store (fun _ => none) window limits events .login "root" steady
    (fun _ => kept) elapsed few 150 1
  rw [times] at bound
  exact ⟨steady, kept, elapsed, few, times, bound⟩

end

/-! ## Limits of live buckets

A bucket takes its limits from the hit that makes it, and only judgements make hits. The limits of a
gate never change, so every live bucket has the limit that the gate has for the aspect of its key,
whatever has happened before.
-/

section

variable {σ : Type} {gate : Gate σ (UnreliableLimiter Registry)}

/-- Every key of an aspect is held to the limit of that aspect. -/
def Governed (gate : Gate σ (UnreliableLimiter Registry)) : Prop :=
  ∀ aspect value, gate.registry.HeldTo (aspect.key value) (gate.limits.of aspect)

section

variable {limits : AttemptLimits} {registry : Registry} {aspect : Aspect} {value : String}

/-- A hit for one aspect holds the keys of all aspects to their limits. -/
theorem heldTo_hit (held : registry.HeldTo (aspect.key value) (limits.of aspect))
    (other : Aspect) (found : String) (window : Window) :
    (registry.hit (other.key found) (limitsFor limits window other)).2.HeldTo (aspect.key value)
      (limits.of aspect) := by
  refine held.hit fun same => ?_
  rw [(Aspect.key_inj.mp same).1]
  rfl

theorem heldTo_countAll {window : Window} {attempt : Attempt}
    (held : registry.HeldTo (aspect.key value) (limits.of aspect)) (aspects : List Aspect) :
    (countAll limits window attempt registry aspects).HeldTo (aspect.key value)
      (limits.of aspect) := by
  induction aspects generalizing registry with
  | nil => exact held
  | cons first rest ih => exact ih (heldTo_hit held first _ window)

end

theorem governed_fresh (store : σ) (plan : Nat → Option LimitsFault) (window : Window)
    (limits : AttemptLimits) : (fresh store plan window limits).Governed :=
  fun _ _ => .empty _ _

variable [RuleStore σ]

theorem limits_after (gate : Gate σ (UnreliableLimiter Registry)) (event : Event) :
    (gate.after event).limits = gate.limits := by
  cases asked : event.attempt? with
  | some attempt =>
    obtain ⟨_, _, _, decides, -⟩ := gate.exists_decides attempt
    rw [after_of_attempt asked, decides.check_eq]
    rfl
  | none => exact (gate.after_of_none asked).2.1

theorem limits_run (gate : Gate σ (UnreliableLimiter Registry)) (events : List Event) :
    (gate.run events).limits = gate.limits := by
  induction events generalizing gate with
  | nil => rfl
  | cons event rest ih => exact (ih (gate.after event)).trans (limits_after gate event)

/-- Only judgements open buckets. -/
theorem inherits_of_none {event : Event} (nothing : event.attempt? = none) :
    Registry.Inherits gate.registry (gate.after event).registry := by
  obtain ⟨-, -, -, same | ⟨_, -, same⟩ | ⟨_, same⟩ | ⟨-, same⟩⟩ := gate.after_of_none nothing
  · exact same ▸ .refl _
  · exact same ▸ Registry.inherits_reset _ _
  · exact same ▸ Registry.inherits_advance _ _
  · exact same ▸ Registry.inherits_shutdown _

namespace Governed

theorem after (governed : gate.Governed) (event : Event) : (gate.after event).Governed := by
  intro aspect value
  rw [limits_after]
  cases asked : event.attempt? with
  | some attempt =>
    obtain ⟨_, counted, _, decides, -⟩ := gate.exists_decides attempt
    rw [after_of_attempt asked, decides.check_eq]
    exact heldTo_countAll (governed aspect value) counted
  | none => exact (governed aspect value).of_inherits (inherits_of_none asked)

theorem run (governed : gate.Governed) (events : List Event) : (gate.run events).Governed := by
  induction events generalizing gate with
  | nil => exact governed
  | cons event rest ih => exact ih (governed.after event)

end Governed

end

end LoginGate.Gate
