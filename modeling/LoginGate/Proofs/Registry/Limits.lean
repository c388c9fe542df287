import LoginGate.Proofs.Registry.Independence

/-! # Limits for life

A bucket takes its limits from the hit that opens it and keeps them as long as it is live. No other
event opens a bucket: whatever is live after one was live before, with the same limits.
-/

namespace LoginGate

/-- A bucket keeps its limits for life. -/
theorem Bucket.limits_of_pass {bucket passed : Bucket} {now : Nat}
    (live : bucket.pass now = some passed) : passed.limits = bucket.limits := by
  fun_induction pass bucket now with
  | case1 bucket reached idle => cases live
  | case2 bucket reached busy ih => exact ih live
  | case3 bucket early =>
    cases live
    rfl

namespace Registry

/-- What is live in the later registry was live in the earlier one, with the same limits. -/
def Inherits (earlier later : Registry) : Prop :=
  ∀ key bucket, later.bucket? key = some bucket →
    ∃ before, earlier.bucket? key = some before ∧ bucket.limits = before.limits

theorem Inherits.refl (registry : Registry) : Inherits registry registry :=
  fun _ bucket found => ⟨bucket, found, rfl⟩

theorem inherits_advance (registry : Registry) (nanos : Nat) :
    Inherits registry (registry.advance nanos) := by
  intro key bucket found
  rw [bucket?_advance] at found
  obtain ⟨before, live, passed⟩ := Option.bind_eq_some_iff.mp found
  exact ⟨before, live, Bucket.limits_of_pass passed⟩

theorem inherits_reset (registry : Registry) (key : String) :
    Inherits registry (registry.reset key).2 := by
  intro other bucket found
  rw [bucket?_reset] at found
  split at found
  · cases found
  · exact ⟨bucket, found, rfl⟩

theorem inherits_shutdown (registry : Registry) : Inherits registry registry.shutdown := by
  intro key bucket found
  rw [bucket?_shutdown] at found
  cases found

section Hits

variable {registry : Registry} {key other : String} {limits : Limits} {bucket : Bucket}

/-- After a hit a key has the limits that it had before, or those of the hit if it opened the
bucket. -/
theorem limits_of_hit (found : (registry.hit other limits).2.bucket? key = some bucket) :
    (∃ before, registry.bucket? key = some before ∧ bucket.limits = before.limits) ∨
      registry.bucket? key = none ∧ other = key ∧ bucket.limits = limits := by
  rcases bucket?_hit_cases registry other key limits with same | ⟨rfl, usable, counted⟩
  · rw [same] at found
    exact .inl ⟨bucket, found, rfl⟩
  · rw [counted, bucketFor] at found
    obtain rfl := Option.some.inj found
    cases live : registry.bucket? other with
    | none => exact .inr ⟨rfl, rfl, rfl⟩
    | some before => exact .inl ⟨before, rfl, rfl⟩

theorem bucket?_eq_none_of_hit (absent : (registry.hit other limits).2.bucket? key = none) :
    registry.bucket? key = none := by
  rcases bucket?_hit_cases registry other key limits with same | ⟨-, _, counted⟩
  · rwa [same] at absent
  · rw [counted] at absent
    cases absent

end Hits

/-! ## A limit for a key -/

/-- The bucket of a key, if it is live, has this limit. -/
def HeldTo (registry : Registry) (key : String) (limit : Nat) : Prop :=
  ∀ bucket, registry.bucket? key = some bucket → bucket.limits.limit = limit

namespace HeldTo

variable {registry : Registry} {key : String} {limit : Nat}

theorem empty (key : String) (limit : Nat) : Registry.empty.HeldTo key limit := by
  intro bucket found
  rw [bucket?_empty] at found
  cases found

/-- A limit is inherited. -/
theorem of_inherits (held : registry.HeldTo key limit) {later : Registry}
    (inherits : Inherits registry later) : later.HeldTo key limit := by
  intro bucket found
  obtain ⟨before, live, same⟩ := inherits key bucket found
  rw [same]
  exact held before live

theorem advance (held : registry.HeldTo key limit) (nanos : Nat) :
    (registry.advance nanos).HeldTo key limit :=
  held.of_inherits (inherits_advance registry nanos)

theorem hit (held : registry.HeldTo key limit) {other : String} {limits : Limits}
    (own : other = key → limits.limit = limit) :
    (registry.hit other limits).2.HeldTo key limit := by
  intro bucket found
  rcases limits_of_hit found with ⟨before, live, same⟩ | ⟨-, same, given⟩
  · rw [same]
    exact held before live
  · rw [given]
    exact own same

end HeldTo

/-! ## Between boundaries

As long as the clock reaches no boundary, time changes no bucket. A hit adds one to the count of its
key, and the answer tells whether the new count is past the limit that the key is held to.
-/

/-- The hits on a key since the last boundary; none when the key has no live bucket. -/
def count (registry : Registry) (key : String) : Nat :=
  ((registry.bucket? key).map Bucket.count).getD 0

/-- The clock reaches no boundary within some nanoseconds. -/
def Still (registry : Registry) (nanos : Nat) : Prop :=
  ∀ key bucket, registry.bucket? key = some bucket → registry.now + nanos < bucket.due

/-- Only the live buckets have boundaries. -/
theorem still_iff (registry : Registry) (nanos : Nat) :
    registry.Still nanos ↔
      ∀ entry ∈ registry.buckets.toList, registry.now + nanos < entry.2.due := by
  rw [Still, Prod.forall]
  simp only [Std.ExtTreeMap.mem_toList_iff_getElem?_eq_some, bucket?]

instance (registry : Registry) (nanos : Nat) : Decidable (registry.Still nanos) :=
  decidable_of_iff _ (registry.still_iff nanos).symm

variable {registry : Registry} {key : String} {limits : Limits}

/-! ### Time -/

theorem bucket?_advance_of_still {nanos : Nat} (still : registry.Still nanos) (key : String) :
    (registry.advance nanos).bucket? key = registry.bucket? key := by
  rw [bucket?_advance]
  cases found : registry.bucket? key with
  | none => rfl
  | some bucket => exact Bucket.pass_of_lt (still key bucket found)

theorem count_advance_of_still {nanos : Nat} (still : registry.Still nanos) (key : String) :
    (registry.advance nanos).count key = registry.count key := by
  rw [count, bucket?_advance_of_still still, ← count]

/-! ### Hits -/

theorem count_hit (registry : Registry) (key other : String) (usable : limits.Usable) :
    (registry.hit key limits).2.count other =
      if key = other then (registry.count other + 1) % wordSize else registry.count other := by
  rw [count, bucket?_hit registry key other usable]
  split
  · next own =>
    subst own
    rw [count, bucketFor]
    cases registry.bucket? key <;> rfl
  · rfl

/-- A hit is answered by the count and the limit that the key is held to. -/
theorem hit_of_heldTo (held : registry.HeldTo key limits.limit) (usable : limits.Usable) :
    (registry.hit key limits).1 =
      .ok (decide (limits.limit < clamped (registry.count key + 1))) := by
  rw [hit_of_usable registry key usable, count, bucketFor]
  cases found : registry.bucket? key with
  | none => rfl
  | some bucket =>
    rw [← held bucket found]
    rfl

end Registry
end LoginGate
