import LoginGate.Proofs.Registry.Passage

/-! # Timelines

Some events of a run are nothing but time passing. The timeline of a run says what else happens in
it, and when; together with the time at its end it determines what the run tells and what it leaves.
How the time in between was cut does not show.
-/

namespace LoginGate.Registry

/-! ## Registries that are up to date -/

variable {registry : Registry}

/-- No event leaves a boundary behind. -/
theorem still_after (settled : registry.Still 0) (event : Event) :
    (registry.after event).Still 0 := by
  intro key bucket found
  cases event with
  | hit other limits =>
    rw [after, now_hit]
    rw [after] at found
    rcases bucket?_hit_cases registry other key limits with same | ⟨rfl, usable, counted⟩
    · rw [same] at found
      exact settled key bucket found
    · rw [counted, bucketFor] at found
      obtain rfl := Option.some.inj found
      cases live : registry.bucket? other with
      | none => exact Bucket.lt_boundaryAfter usable.period_pos registry.now
      | some before => exact settled other before live
  | advance nanos =>
    rw [after, bucket?_advance] at found
    obtain ⟨before, -, live⟩ := Option.bind_eq_some_iff.mp found
    exact Bucket.lt_due_of_pass live
  | reset other =>
    rw [after, bucket?_reset] at found
    split at found
    · cases found
    · exact settled key bucket found
  | shutdown =>
    rw [after, bucket?_shutdown] at found
    cases found

theorem still_run (settled : registry.Still 0) (events : List Event) :
    (registry.run events).Still 0 := by
  induction events generalizing registry with
  | nil => exact settled
  | cons event rest ih => exact ih (still_after settled event)

theorem still_empty : empty.Still 0 := by
  intro key bucket found
  rw [bucket?_empty] at found
  cases found

/-! ## What happens when -/

/-- The event is nothing but time passing. -/
def Event.isAdvance : Event → Bool
  | .advance _ => true
  | _ => false

/-- What happens in a run that begins at some time, and when, besides the passing of time. -/
def timeline : Nat → List Event → List (Nat × Event)
  | _, [] => []
  | now, .advance nanos :: rest => timeline (now + nanos) rest
  | now, event :: rest => (now, event) :: timeline now rest

/-- What a run tells besides the passing of time. -/
def told (registry : Registry) (events : List Event) : List (Event × Reply) :=
  (registry.transcript events).filter fun told => !told.1.isAdvance

/-- What is told and what is left when events happen at given times, up to a last time. -/
def follow : Registry → List (Nat × Event) → Nat → List (Event × Reply) × Registry
  | registry, [], last => ([], registry.advance (last - registry.now))
  | registry, (time, event) :: rest, last =>
    let reached := registry.advance (time - registry.now)
    let result := follow (reached.after event) rest last
    ((event, reached.reply event) :: result.1, result.2)

theorem le_of_mem_timeline {now : Nat} {events : List Event} {entry : Nat × Event}
    (member : entry ∈ timeline now events) : now ≤ entry.1 := by
  induction events generalizing now with
  | nil => cases member
  | cons event rest ih =>
    have placed : entry ∈ (now, event) :: timeline now rest → now ≤ entry.1 := by
      intro member
      rcases List.mem_cons.mp member with rfl | later
      · exact Nat.le_refl now
      · exact ih later
    cases event with
    | advance nanos => exact Nat.le_trans (Nat.le_add_right now nanos) (ih member)
    | hit key limits => exact placed member
    | reset key => exact placed member
    | shutdown => exact placed member

/-- Time may pass before the first event of a timeline. -/
theorem follow_advance (registry : Registry) {nanos last : Nat} {line : List (Nat × Event)}
    (later : ∀ entry ∈ line, registry.now + nanos ≤ entry.1) (ends : registry.now + nanos ≤ last) :
    follow (registry.advance nanos) line last = follow registry line last := by
  -- Up to any later time there is one wait, which begins with the one given.
  have reach {time : Nat} (order : registry.now + nanos ≤ time) :
      (registry.advance nanos).advance (time - (registry.advance nanos).now) =
        registry.advance (time - registry.now) := by
    have clock : (registry.advance nanos).now = registry.now + nanos := rfl
    rw [advance_advance, clock]
    congr 1
    omega
  cases line with
  | nil => rw [follow, follow, reach ends]
  | cons entry rest => rw [follow, follow, reach (later entry List.mem_cons_self)]

/-- A run is what happens on its timeline. -/
theorem follow_timeline (settled : registry.Still 0) (events : List Event) :
    follow registry (timeline registry.now events) (registry.run events).now =
      (registry.told events, registry.run events) := by
  induction events generalizing registry with
  | nil =>
    change ([], registry.advance (registry.now - registry.now)) = ([], registry)
    rw [Nat.sub_self, advance_zero settled]
  | cons event rest ih =>
    have rest_eq := ih (still_after settled event)
    -- An event that takes no time meets the registry as it is.
    have meets : (registry.after event).now = registry.now →
        follow registry ((registry.now, event) :: timeline registry.now rest)
            ((registry.after event).run rest).now =
          ((event, registry.reply event) :: (registry.after event).told rest,
            (registry.after event).run rest) := by
      intro clock
      rw [clock] at rest_eq
      rw [follow, Nat.sub_self, advance_zero settled, rest_eq]
    cases event with
    | advance nanos =>
      have ends := now_le_run (registry.advance nanos) rest
      exact (follow_advance registry (fun _ => le_of_mem_timeline) ends).symm.trans rest_eq
    | hit key limits => exact meets (now_hit registry key limits)
    | reset key => exact meets rfl
    | shutdown => exact meets rfl

/-- Time on the virtual clock can be split. Whatever a run has led to, two waits come to the same as
one. Runs in which the same happens at the same times tell the same and lead to the same registry,
however the time in between is cut. The work of a wait may be done in any order: in whatever moments
the boundaries that the clock had reached were dealt with, each for the time it was due, once none is
left behind the registry is the one after a single wait, and the boundaries of any wait may change
places with each other. This is no statement about a timer that is late for a boundary and lets the
next one wait a full period from then. -/
theorem waits_may_be_split (past : List Event) :
    let registry := empty.run past
    (∀ first second,
      (registry.advance first).advance second = registry.advance (first + second)) ∧
    (∀ events other, timeline registry.now events = timeline registry.now other →
      (registry.run events).now = (registry.run other).now →
      registry.told events = registry.told other ∧ registry.run events = registry.run other) ∧
    (∀ ticks, (registry.tickAll ticks).Still 0 →
      registry.tickAll ticks = registry.advance (elapsed ticks)) ∧
    ∀ nanos, ∃ keys : List String, ∀ order : List String, order.Perm keys →
      registry.tickAll (.wait nanos :: order.map .cross) = registry.advance nanos := by
  intro registry
  have settled : registry.Still 0 := still_run still_empty past
  refine ⟨registry.advance_advance, fun events other same ends => ?_,
    fun ticks => tickAll_eq_advance, fun nanos => ?_⟩
  · have result : (registry.told events, registry.run events) =
        (registry.told other, registry.run other) := by
      rw [← follow_timeline settled events, ← follow_timeline settled other, same, ends]
    exact Prod.mk.inj result
  · obtain ⟨keys, caughtUp⟩ := (registry.ticked (.wait nanos)).exists_crossings
    refine ⟨keys, fun order reordered => ?_⟩
    calc registry.tickAll (.wait nanos :: order.map .cross)
        = (registry.ticked (.wait nanos)).tickAll (order.map .cross) := registry.tickAll_cons _ _
      _ = (registry.ticked (.wait nanos)).tickAll (keys.map .cross) :=
          crossings_eq_of_perm _ reordered
      _ = (registry.ticked (.wait nanos)).advance 0 := caughtUp
      _ = registry.advance nanos := registry.advance_ticked (.wait nanos) 0

/-- One of two keys reaches its first boundary at 100, the other at 110. A wait is cut at both, or
at neither, or each of them is dealt with after its time. -/
theorem waits_may_be_split_at_boundaries :
    let once : Limits := ⟨.ofNanos 100, 1⟩
    let often : Limits := ⟨.ofNanos 70, 5⟩
    let registry := empty.run [.hit "a" once, .advance 40, .hit "b" often]
    let events := [Event.advance 60, .advance 10, .hit "a" once, .advance 95, .hit "a" once]
    let other := [Event.advance 70, .hit "a" once, .advance 90, .advance 5, .hit "a" once]
    let ticks := [Tick.wait 61, .cross "b", .cross "a", .wait 49, .cross "b"]
    timeline registry.now events = timeline registry.now other ∧
      (registry.run events).now = (registry.run other).now ∧
      registry.told events = [(.hit "a" once, .counted false), (.hit "a" once, .counted false)] ∧
      registry.told other = registry.told events ∧
      registry.run other = registry.run events ∧
      (registry.tickAll ticks).Still 0 ∧
      registry.tickAll ticks = (registry.advance 60).advance 50 := by
  intro once often registry events other ticks
  have same : timeline registry.now events = timeline registry.now other := by decide +kernel
  have ends : (registry.run events).now = (registry.run other).now := by decide +kernel
  have settled : (registry.tickAll ticks).Still 0 := by decide +kernel
  obtain ⟨split, cut, moments, -⟩ :=
    waits_may_be_split [.hit "a" once, .advance 40, .hit "b" often]
  obtain ⟨told, left⟩ := cut events other same ends
  refine ⟨same, ends, by decide +kernel, told.symm, left.symm, settled, ?_⟩
  rw [moments ticks settled]
  exact (split 60 50).symm

end LoginGate.Registry
