import LoginGate.Bucket
import LoginGate.Limits
import Std.Data.ExtTreeMap

/-! # The registry of buckets

The registry holds one bucket for each key that was hit and has not been idle for long. It has a
clock that only moves forward; whenever the clock has moved, all boundaries up to the new time have
been dealt with, so the buckets never lag behind the clock. The clock is a virtual one, on which no
boundary comes late. A timer that is late for a boundary, and lets the next period begin then, is
not described.

A bucket is found by its key (`Registry.bucket?`), and every operation is described by what it does
to that view.
-/

namespace LoginGate

/-- The live buckets and the time. -/
structure Registry where
  /-- Nanoseconds since the registry was made. -/
  now : Nat := 0
  buckets : Std.ExtTreeMap String Bucket := ∅

namespace Registry

/-- No bucket, at the start of time. -/
def empty : Registry :=
  {}

/-- The live bucket of a key. -/
def bucket? (registry : Registry) (key : String) : Option Bucket :=
  registry.buckets[key]?

def contains (registry : Registry) (key : String) : Bool :=
  registry.buckets.contains key

def size (registry : Registry) : Nat :=
  registry.buckets.size

def keys (registry : Registry) : List String :=
  registry.buckets.keys

/-- The bucket that a hit counts on: the live one, or a new one with the given limits. -/
def bucketFor (registry : Registry) (key : String) (limits : Limits)
    (period_pos : 0 < limits.period.nanos) : Bucket :=
  (registry.bucket? key).getD (.opened limits period_pos registry.now)

/-- Counts a hit and tells whether the limit is exceeded. -/
def hit (registry : Registry) (key : String) (limits : Limits) :
    Except LimitsFault Bool × Registry :=
  match validated : limits.validate with
  | .error fault => (.error fault, registry)
  | .ok _ =>
    let bucket := registry.bucketFor key limits (limits.usable_of_validate validated).period_pos
    (.ok bucket.isFull,
      { registry with buckets := registry.buckets.insert key (bucket.hit registry.now) })

/-- Removes a bucket and tells whether it was live. -/
def reset (registry : Registry) (key : String) : Bool × Registry :=
  (registry.contains key, { registry with buckets := registry.buckets.erase key })

def shutdown (registry : Registry) : Registry :=
  { registry with buckets := ∅ }

/-- Moves the clock and deals with the boundaries up to the new time. -/
def advance (registry : Registry) (nanos : Nat) : Registry where
  now := registry.now + nanos
  buckets := registry.buckets.filterMap fun _ bucket =>
    bucket.pass (registry.now + nanos)

instance : Limiter Registry where
  hit key limits registry := registry.hit key limits
  reset key registry := registry.reset key

/-- Registries agree when their clocks and their buckets do. -/
@[ext]
theorem ext {first second : Registry} (clocks : first.now = second.now)
    (buckets : ∀ key, first.bucket? key = second.bucket? key) : first = second := by
  obtain ⟨firstNow, firstBuckets⟩ := first
  obtain ⟨secondNow, secondBuckets⟩ := second
  cases clocks
  exact congrArg (Registry.mk firstNow) (Std.ExtTreeMap.ext_getElem? buckets)

theorem contains_eq (registry : Registry) (key : String) :
    registry.contains key = (registry.bucket? key).isSome :=
  Std.ExtTreeMap.contains_eq_isSome_getElem?

@[simp]
theorem bucket?_empty (key : String) : empty.bucket? key = none :=
  Std.ExtTreeMap.getElem?_empty

@[simp]
theorem bucket?_shutdown (registry : Registry) (key : String) :
    registry.shutdown.bucket? key = none :=
  Std.ExtTreeMap.getElem?_empty

/-- A hit with limits that cannot be used counts nowhere. -/
theorem hit_of_error (registry : Registry) (key : String) {limits : Limits} {fault : LimitsFault}
    (refused : limits.validate = .error fault) :
    registry.hit key limits = (.error fault, registry) := by
  unfold hit
  split
  · next other refused' =>
    cases refused.symm.trans refused'
    rfl
  · next accepted =>
    cases refused.symm.trans accepted

theorem hit_of_usable (registry : Registry) (key : String) {limits : Limits}
    (usable : limits.Usable) :
    registry.hit key limits =
      (.ok (registry.bucketFor key limits usable.period_pos).isFull,
        { registry with
          buckets := registry.buckets.insert key
            ((registry.bucketFor key limits usable.period_pos).hit registry.now) }) := by
  unfold hit
  split
  · next refused =>
    cases refused.symm.trans usable.validate
  · rfl

@[simp]
theorem now_hit (registry : Registry) (key : String) (limits : Limits) :
    (registry.hit key limits).2.now = registry.now := by
  unfold hit
  split <;> rfl

/-- A hit with limits that can be used counts on its own key and leaves the others alone. -/
theorem bucket?_hit (registry : Registry) (key other : String) {limits : Limits}
    (usable : limits.Usable) :
    (registry.hit key limits).2.bucket? other =
      if key = other then
        some ((registry.bucketFor key limits usable.period_pos).hit registry.now)
      else registry.bucket? other := by
  rw [hit_of_usable registry key usable]
  simp [bucket?, Std.ExtTreeMap.getElem?_insert]

/-- A hit leaves the bucket of a key as it is, or counts on it. -/
theorem bucket?_hit_cases (registry : Registry) (key other : String) (limits : Limits) :
    (registry.hit key limits).2.bucket? other = registry.bucket? other ∨
      key = other ∧ ∃ usable : limits.Usable,
        (registry.hit key limits).2.bucket? other =
          some ((registry.bucketFor key limits usable.period_pos).hit registry.now) := by
  cases validated : limits.validate with
  | error fault => exact .inl (by rw [hit_of_error registry key validated])
  | ok valid =>
    have usable := limits.usable_of_validate validated
    rw [bucket?_hit registry key other usable]
    split
    · next own => exact .inr ⟨own, usable, rfl⟩
    · exact .inl rfl

theorem bucket?_reset (registry : Registry) (key other : String) :
    (registry.reset key).2.bucket? other =
      if key = other then none else registry.bucket? other := by
  simp [reset, bucket?, Std.ExtTreeMap.getElem?_erase]

/-- Time passes for every bucket on its own. -/
theorem bucket?_advance (registry : Registry) (nanos : Nat) (key : String) :
    (registry.advance nanos).bucket? key =
      (registry.bucket? key).bind fun bucket => bucket.pass (registry.now + nanos) := by
  simp only [bucket?, advance, Std.ExtTreeMap.getElem?_filterMap]
  cases registry.buckets[key]? <;> rfl

/-! ## Runs of a registry

What happens to a registry is a list of events. Boundaries are no events of their own: they are
dealt with whenever the clock moves, so an event always meets a registry that is up to date.
-/

inductive Event where
  | hit (key : String) (limits : Limits)
  | advance (nanos : Nat)
  | reset (key : String)
  | shutdown
  deriving DecidableEq, Repr

/-- The event is a hit that is counted. -/
def Event.counts : Event → Bool
  | .hit _ limits => decide limits.Usable
  | _ => false

def after (registry : Registry) : Event → Registry
  | .hit key limits => (registry.hit key limits).2
  | .advance nanos => registry.advance nanos
  | .reset key => (registry.reset key).2
  | .shutdown => registry.shutdown

def run (registry : Registry) (events : List Event) : Registry :=
  events.foldl after registry

/-- The number of hits that a run counts. -/
def countedHits (events : List Event) : Nat :=
  events.countP Event.counts

/-- A run may be cut anywhere. -/
theorem run_append (registry : Registry) (first second : List Event) :
    registry.run (first ++ second) = (registry.run first).run second :=
  List.foldl_append

theorem now_le_after (registry : Registry) (event : Event) :
    registry.now ≤ (registry.after event).now := by
  cases event with
  | hit key limits => exact Nat.le_of_eq (now_hit registry key limits).symm
  | advance nanos => exact Nat.le_add_right _ _
  | reset key => exact Nat.le_refl _
  | shutdown => exact Nat.le_refl _

theorem now_le_run (registry : Registry) (events : List Event) :
    registry.now ≤ (registry.run events).now := by
  induction events generalizing registry with
  | nil => exact Nat.le_refl _
  | cons event rest ih => exact Nat.le_trans (now_le_after registry event) (ih _)

/-- A hit that is not counted changes nothing. -/
theorem after_hit_of_not_usable (registry : Registry) (key : String) {limits : Limits}
    (refused : ¬ limits.Usable) : registry.after (.hit key limits) = registry := by
  cases validated : limits.validate with
  | error fault => rw [after, hit_of_error registry key validated]
  | ok valid => exact absurd (limits.usable_of_validate validated) refused

end Registry
end LoginGate
