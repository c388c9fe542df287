import LoginGate.Proofs.Gate.Bound
import Mathlib.Data.List.Induction

/-! # Where live buckets come from

Every live bucket was opened by a judgement, with the window that the gate had at that moment and
with the limit of the aspect in its key, and it keeps both however the window is changed later. The
window of a gate is the last one that was accepted.
-/

namespace LoginGate.Gate

/-! ## Windows -/

/-- The length that was last set, or given to begin with; a window without length is not accepted. -/
def lastWindow (first : Duration) (events : List Event) : Duration :=
  events.foldl
    (fun last event =>
      match event with
      | .setWindow window => if window.isZero then last else window
      | _ => last)
    first

section Windows

variable {σ β : Type}

/-- A window without length is refused, and nothing happens. -/
theorem setWindow_of_zero (gate : Gate σ β) {window : Duration} (zero : window.nanos = 0) :
    gate.setWindow window = (.error .zeroWindow, gate) := by
  rw [setWindow, Window.ofSpan?_of_zero zero]

theorem setWindow_of_pos (gate : Gate σ β) {window : Duration} (positive : 0 < window.nanos) :
    ∃ next : Window, gate.setWindow window = (.ok (), { gate with window := next }) ∧
      next.nanos = min window.nanos (wordSize - 1) := by
  obtain ⟨next, some, length⟩ := Window.exists_ofSpan? positive
  exact ⟨next, by rw [setWindow, some], length⟩

/-- A gate is built with the window that is given, cut to 64 bits. -/
theorem exists_fresh_of_build {store : σ} {plan : Nat → Option LimitsFault} {span : Duration}
    {limits : AttemptLimits} {start : Gate σ (UnreliableLimiter Registry)}
    (built : Gate.build store { inner := Registry.empty, plan } span limits = .ok start) :
    ∃ window : Window, start = fresh store plan window limits ∧
      window.nanos = min span.nanos (wordSize - 1) := by
  by_cases zero : span.nanos = 0
  · rw [build, Window.ofSpan?_of_zero zero] at built
    cases built
  · obtain ⟨window, some, length⟩ := Window.exists_ofSpan? (Nat.pos_of_ne_zero zero)
    rw [build, some] at built
    exact ⟨window, (Except.ok.inj built).symm, length⟩

variable [RuleStore σ] (gate : Gate σ (UnreliableLimiter Registry))

theorem window_after (event : Event) :
    (gate.after event).window =
      match event with
      | .setWindow window => (gate.setWindow window).2.window
      | _ => gate.window := by
  cases event with
  | checkText login password address =>
    rw [after, checkText]
    cases Address.parse address <;> rfl
  | reset request =>
    rw [after, reset]
    cases request.key <;> rfl
  | _ => rfl

/-- The window of a gate is as long as the last one that was accepted, cut to 64 bits. -/
theorem window_run {first : Duration} (given : gate.window.nanos = min first.nanos (wordSize - 1))
    (events : List Event) :
    (gate.run events).window.nanos = min (lastWindow first events).nanos (wordSize - 1) := by
  induction events generalizing gate first with
  | nil => exact given
  | cons event rest ih =>
    refine ih (gate.after event) ?_
    rw [window_after]
    cases event with
    | setWindow window =>
      by_cases zero : window.nanos = 0
      · have refused : window.isZero = true := beq_iff_eq.mpr zero
        simp only [setWindow_of_zero gate zero, refused, if_true, given]
      · obtain ⟨next, accepted, length⟩ := setWindow_of_pos gate (Nat.pos_of_ne_zero zero)
        have longer : window.isZero = false := beq_eq_false_iff_ne.mpr zero
        simp only [accepted, longer, Bool.false_eq_true, if_false, length]
    | _ => exact given

end Windows

/-! ## Openings -/

variable {σ : Type} [RuleStore σ]

/-- In a run, the bucket that a key has in the end was opened by one of the events: before that the
key had no live bucket, and since then it has always had one. -/
structure Opens (start : Gate σ (UnreliableLimiter Registry)) (key : String) (before : List Event)
    (event : Event) (later : List Event) : Prop where
  judged : ∃ attempt aspect, event.attempt? = some attempt ∧ attempt.key aspect = key
  absent : (start.run before).registry.contains key = false
  live : ∀ since, since <+: later →
    (start.run (before ++ event :: since)).registry.contains key = true

section

variable {limits : AttemptLimits} {window : Window} {attempt : Attempt} {registry : Registry}
  {key : String} {bucket : Bucket}

/-- After an attempt is counted a key has the limits that it had before, or those of one of the
aspects that are counted. -/
theorem limits_of_countAll {aspects : List Aspect}
    (found : (countAll limits window attempt registry aspects).bucket? key = some bucket) :
    (∃ before, registry.bucket? key = some before ∧ bucket.limits = before.limits) ∨
      registry.bucket? key = none ∧ ∃ aspect ∈ aspects, attempt.key aspect = key ∧
        bucket.limits = limitsFor limits window aspect := by
  induction aspects generalizing registry with
  | nil => exact .inl ⟨bucket, found, rfl⟩
  | cons first rest ih =>
    rcases ih found with ⟨between, live, same⟩ | ⟨absent, aspect, member, own, given⟩
    · rcases Registry.limits_of_hit live with ⟨before, live, same'⟩ | ⟨absent, own, given⟩
      · exact .inl ⟨before, live, same.trans same'⟩
      · exact .inr ⟨absent, first, List.mem_cons_self, own, same.trans given⟩
    · exact .inr ⟨Registry.bucket?_eq_none_of_hit absent, aspect, List.mem_cons_of_mem _ member, own,
        given⟩

/-- After an event a key has the limits that it had before, or those that the gate has now for an
aspect of the attempt that it judges. -/
theorem limits_of_after {gate : Gate σ (UnreliableLimiter Registry)} {event : Event}
    (found : (gate.after event).registry.bucket? key = some bucket) :
    (∃ before, gate.registry.bucket? key = some before ∧ bucket.limits = before.limits) ∨
      gate.registry.bucket? key = none ∧ ∃ attempt aspect, event.attempt? = some attempt ∧
        attempt.key aspect = key ∧ bucket.limits = limitsFor gate.limits gate.window aspect := by
  cases asked : event.attempt? with
  | some attempt =>
    obtain ⟨_, counted, _, decides, -⟩ := gate.exists_decides attempt
    rw [after_of_attempt asked, decides.check_eq] at found
    rcases limits_of_countAll found with before | ⟨absent, aspect, -, own, given⟩
    · exact .inl before
    · exact .inr ⟨absent, attempt, aspect, rfl, own, given⟩
  | none => exact .inl (inherits_of_none asked key bucket found)

end

/-- Every live bucket has been opened in the run, with the limits that the gate had then. -/
theorem exists_opens {start : Gate σ (UnreliableLimiter Registry)}
    (fresh : start.registry = Registry.empty) (events : List Event) {key : String} {bucket : Bucket}
    (found : (start.run events).registry.bucket? key = some bucket) :
    ∃ aspect value before event later, key = aspect.key value ∧
      events = before ++ event :: later ∧ Opens start key before event later ∧
      bucket.limits = limitsFor start.limits (start.run before).window aspect := by
  -- The last event has either opened the bucket, or left a live one with its limits.
  induction events using List.reverseRecOn generalizing bucket with
  | nil =>
    have none : start.registry.bucket? key = none := by rw [fresh, Registry.bucket?_empty]
    cases none.symm.trans found
  | append_singleton events last ih =>
    have live : (start.run (events ++ [last])).registry.contains key = true := by
      rw [Registry.contains_eq, found]
      rfl
    rw [run_append] at found
    rcases limits_of_after found with
      ⟨before, present, same⟩ | ⟨absent, attempt, aspect, judged, own, given⟩
    · obtain ⟨aspect, value, earlier, event, later, named, rfl, opens, given⟩ := ih present
      refine ⟨aspect, value, earlier, event, later ++ [last], named, ?_, ?_, same.trans given⟩
      · rw [List.append_assoc, List.cons_append]
      · refine ⟨opens.judged, opens.absent, fun since cut => ?_⟩
        rcases List.prefix_concat_iff.mp cut with rfl | cut
        · rwa [List.append_assoc, List.cons_append] at live
        · exact opens.live since cut
    · refine ⟨aspect, attempt.value aspect, events, last, [], own.symm, rfl, ?_, ?_⟩
      · refine ⟨⟨attempt, aspect, judged, own⟩, ?_, fun since cut => ?_⟩
        · rw [Registry.contains_eq, absent]
          rfl
        · rw [List.prefix_nil.mp cut]
          exact live
      · rw [given, limits_run]

/-- The key of every live bucket names one aspect and one value. The bucket has the limit of that
aspect and, as its period, the window of the gate at the judgement that opened it, whatever the
window is now. The window is the last one that was accepted; setting it changes no bucket, and
nothing at all when it is refused. -/
theorem live_buckets_keep_origin (store : σ) (plan : Nat → Option LimitsFault) (span : Duration)
    (limits : AttemptLimits) (start : Gate σ (UnreliableLimiter Registry))
    (built : Gate.build store { inner := Registry.empty, plan } span limits = .ok start)
    (events : List Event) :
    let gate := start.run events
    (∀ key bucket, gate.registry.bucket? key = some bucket →
      (∃! named : Aspect × String, named.1.key named.2 = key) ∧
      ∃ aspect value before event later, key = aspect.key value ∧
        events = before ++ event :: later ∧ Opens start key before event later ∧
        bucket.limits.limit = limits.of aspect ∧
        bucket.limits.period = (start.run before).window.span ∧ 0 < bucket.limits.period.nanos) ∧
    (∀ window,
      (gate.setWindow window).2.registry = gate.registry ∧
      (window.nanos = 0 → gate.setWindow window = (.error .zeroWindow, gate)) ∧
      (0 < window.nanos → ∃ next : Window,
        gate.setWindow window = (.ok (), { gate with window := next }) ∧
        next.nanos = min window.nanos (wordSize - 1))) ∧
    gate.window.nanos = min (lastWindow span events).nanos (wordSize - 1) := by
  intro gate
  obtain ⟨first, rfl, length⟩ := exists_fresh_of_build built
  refine ⟨fun key bucket found => ?_, fun window => ⟨?_, gate.setWindow_of_zero,
    gate.setWindow_of_pos⟩, window_run _ length events⟩
  · obtain ⟨aspect, value, before, event, later, rfl, cut, opens, same⟩ :=
      exists_opens rfl events found
    refine ⟨⟨(aspect, value), rfl, fun other same => ?_⟩, aspect, value, before, event, later, rfl,
      cut, opens, ?_, ?_, bucket.period_pos⟩
    · obtain ⟨aspects, values⟩ := Aspect.key_inj.mp same
      exact Prod.ext aspects values
    · rw [same]
      rfl
    · rw [same]
      rfl
  · by_cases zero : window.nanos = 0
    · rw [gate.setWindow_of_zero zero]
    · obtain ⟨next, set, -⟩ := gate.setWindow_of_pos (Nat.pos_of_ne_zero zero)
      rw [set]
      rfl

/-- A bucket that was opened with a window of 100 nanoseconds is hit again after a change of the
window, and keeps its period. -/
theorem live_buckets_keep_origin_of_change :
    let attempt : Attempt := ⟨"root", "guess", ⟨.v4, 0, by decide⟩⟩
    let events := [Event.check attempt, .setWindow (.ofNanos 500), .advance 60, .check attempt,
      .setWindow (.ofNanos 0)]
    let store := MemoryStore.empty ⟨0, 0⟩ RuleId.ofNat
    let limiter : UnreliableLimiter Registry := { inner := .empty, plan := fun _ => none }
    ∃ start, Gate.build store limiter (.ofNanos 100) {} = .ok start ∧
      (start.run events).window.nanos = 500 ∧
      ∃ bucket, (start.run events).registry.bucket? "login_root" = some bucket ∧
        bucket.count = 2 ∧ bucket.limits.period.nanos = 100 := by
  intro attempt events store limiter
  let start : Gate MemoryStore (UnreliableLimiter Registry) :=
    { store, limiter, window := ⟨100, by decide, by decide⟩, limits := {} }
  have built : Gate.build store limiter (.ofNanos 100) {} = .ok start := rfl
  have counted : ((start.run events).registry.bucket? "login_root").map Bucket.count = some 2 := by
    decide +kernel
  -- After every event the key has a live bucket, so nothing came before the one that opened it.
  have since : ∀ n < events.length,
      (start.run (events.take n)).registry.contains "login_root" = false → n = 0 := by
    decide +kernel
  obtain ⟨bucket, found, two⟩ := Option.map_eq_some_iff.mp counted
  obtain ⟨origin, -, window⟩ :=
    live_buckets_keep_origin store (fun _ => none) (.ofNanos 100) {} start built events
  obtain ⟨-, _, _, before, event, later, -, cut, opens, -, period, -⟩ := origin _ bucket found
  have front : events.take before.length = before := by rw [cut, List.take_left]
  have inside : before.length < events.length := by
    rw [cut, List.length_append, List.length_cons]
    omega
  have none : before = [] :=
    List.length_eq_zero_iff.mp (since _ inside (by rw [front]; exact opens.absent))
  subst none
  exact ⟨start, built, window, bucket, found, two, congrArg Duration.nanos period⟩

end LoginGate.Gate
