import LoginGate.Proofs.Registry.Described

/-! # A registry and the life of one key

Along every run the bucket of a key, if there is one, is what the hits on the key make it; and if
there is none although the key was hit and not reset, the last life of the key is over.
-/

namespace LoginGate

namespace Registry

variable {key : String} {registry : Registry} {life : Option Life}

/-- The registry holds for a key what the life of the key says. -/
structure Accords (key : String) (registry : Registry) (life : Option Life) : Prop where
  live : ∀ bucket, registry.bucket? key = some bucket →
    ∃ known, life = some known ∧ (known.InClock → known.Describes bucket registry.now)
  gone : registry.bucket? key = none →
    ∀ known, life = some known → known.InClock → known.Expired registry.now

namespace Accords

protected theorem empty (key : String) : Accords key empty none where
  live bucket found := by
    rw [bucket?_empty] at found
    cases found
  gone _ known present := by cases present

/-- The bucket that a hit counts on is described by the life that the hit continues. -/
theorem bucketFor (accords : Accords key registry life) {limits : Limits}
    (period_pos : 0 < limits.period.nanos) (early : registry.now < wordSize)
    (clocked : (registry.lifeFor key limits life).InClock) :
    (registry.lifeFor key limits life).Describes (registry.bucketFor key limits period_pos)
      registry.now := by
  rw [lifeFor, contains_eq] at clocked ⊢
  rw [Registry.bucketFor]
  cases found : registry.bucket? key with
  | none =>
    simp only [found, Option.isSome_none, Bool.false_eq_true, if_false, Option.getD_none]
      at clocked ⊢
    exact .opened period_pos early clocked
  | some bucket =>
    obtain ⟨known, rfl, described⟩ := accords.live bucket found
    simp only [found, Option.isSome_some, if_true, Option.getD_some] at clocked ⊢
    exact described clocked

private theorem hit (accords : Accords key registry life) {limits : Limits}
    (usable : limits.Usable) (early : registry.now < wordSize) :
    Accords key (registry.hit key limits).2
      (some ((registry.lifeFor key limits life).hit registry.now)) where
  live bucket found := by
    rw [bucket?_hit registry key key usable, if_pos rfl] at found
    obtain rfl := Option.some.inj found
    rw [now_hit]
    exact ⟨_, rfl, fun clocked => (accords.bucketFor usable.period_pos early clocked).hit early⟩
  gone absent := by
    rw [bucket?_hit registry key key usable, if_pos rfl] at absent
    cases absent

private theorem advance (accords : Accords key registry life) (nanos : Nat)
    (early : registry.now + nanos < wordSize) : Accords key (registry.advance nanos) life where
  live bucket found := by
    rw [bucket?_advance] at found
    obtain ⟨earlier, present, passed⟩ := Option.bind_eq_some_iff.mp found
    obtain ⟨known, rfl, described⟩ := accords.live earlier present
    refine ⟨known, rfl, fun clocked => ?_⟩
    rcases (described clocked).pass (Nat.le_add_right _ nanos) early with
      ⟨_, same, kept⟩ | ⟨gone, -⟩
    · rw [same] at passed
      obtain rfl := Option.some.inj passed
      exact kept
    · rw [gone] at passed
      cases passed
  gone absent known told clocked := by
    rw [bucket?_advance] at absent
    cases present : registry.bucket? key with
    | none => exact (accords.gone present known told clocked).mono (Nat.le_add_right _ nanos)
    | some bucket =>
      obtain ⟨other, told', described⟩ := accords.live bucket present
      obtain rfl := Option.some.inj (told.symm.trans told')
      rw [present, Option.bind_some] at absent
      rcases (described clocked).pass (Nat.le_add_right _ nanos) early with
        ⟨_, passed, -⟩ | ⟨-, expired⟩
      · rw [passed] at absent
        cases absent
      · exact expired

/-- What does not touch the bucket of the key, nor the clock, nor the life, changes nothing. -/
private theorem frame (accords : Accords key registry life) {other : Registry}
    (clock : other.now = registry.now) (bucket : other.bucket? key = registry.bucket? key) :
    Accords key other life where
  live := by rw [bucket, clock]; exact accords.live
  gone := by rw [bucket, clock]; exact accords.gone

/-- Every event keeps registry and life in accord. -/
theorem after (accords : Accords key registry life) (event : Event)
    (early : (registry.after event).now < wordSize) :
    Accords key (registry.after event) (registry.lifeAfter key life event) := by
  cases event with
  | hit other limits =>
    rw [Registry.after, now_hit] at early
    by_cases usable : limits.Usable
    · by_cases own : other = key
      · subst own
        rw [lifeAfter, if_pos ⟨rfl, usable⟩]
        exact accords.hit usable early
      · rw [lifeAfter, if_neg fun both => own both.1]
        refine accords.frame (now_hit registry other limits) ?_
        rw [Registry.after, bucket?_hit registry other key usable, if_neg own]
    · rw [lifeAfter, if_neg fun both => usable both.2, after_hit_of_not_usable _ _ usable]
      exact accords
  | advance nanos => exact accords.advance nanos early
  | reset other =>
    by_cases own : other = key
    · rw [lifeAfter, if_pos own]
      refine ⟨fun bucket found => ?_, fun _ known told => by cases told⟩
      rw [Registry.after, bucket?_reset, if_pos own] at found
      cases found
    · rw [lifeAfter, if_neg own]
      refine accords.frame rfl ?_
      rw [Registry.after, bucket?_reset, if_neg own]
  | shutdown =>
    refine ⟨fun bucket found => ?_, fun _ known told => by cases told⟩
    rw [Registry.after, bucket?_shutdown] at found
    cases found

end Accords

/-- Every registry that a run leads to is in accord with the life that the run tells. -/
theorem accords_run (key : String) (events : List Event)
    (early : (empty.run events).now < wordSize) :
    Accords key (empty.run events) (Registry.life key events) := by
  refine lifeAlong_preserves key (fun registry life =>
    registry.now < wordSize → Accords key registry life) ?_ (fun _ => .empty key) events early
  intro registry life event before early
  exact (before (Nat.lt_of_le_of_lt (now_le_after registry event) early)).after event early

end Registry

/-! ## Answers from history

A registry counts hits in buckets that are zeroed at boundaries. What it answers can be told without
buckets: a hit is past the limit when the life it belongs to has more hits in the present window
than the limit with which that life began.
-/

/-- A bucket is full when the next hit of its life is past the limit. -/
theorem Life.Describes.isFull_eq {life : Life} {bucket : Bucket} {now : Nat}
    (described : life.Describes bucket now) (few : (life.hit now).hits.length < wordSize) :
    bucket.isFull = decide (life.limits.limit < (life.hit now).hitsAround now) := by
  have counted : (life.hit now).hitsAround now ≤ (life.hit now).hits.length :=
    List.countP_le_length
  have succ := life.hitsAround_hit now
  have exact : bucket.count = life.hitsAround now := by
    rw [described.count_eq, Nat.mod_eq_of_lt (by omega)]
  have inWord : clamped (bucket.count + 1) = (life.hit now).hitsAround now := by
    rw [exact, ← succ, clamped, Nat.min_eq_left (by omega)]
  rw [Bucket.isFull, Limits.exceededBy, inWord, described.limits_eq]

namespace Registry

/-- Limits are looked at only by the hit that creates a bucket. -/
private theorem hit_eq_of_contains {registry : Registry} {key : String}
    (live : registry.contains key = true) {limits other : Limits} (usable : limits.Usable)
    (otherUsable : other.Usable) : registry.hit key other = registry.hit key limits := by
  rw [contains_eq] at live
  obtain ⟨bucket, found⟩ := Option.isSome_iff_exists.mp live
  have same (chosen : Limits) (positive : 0 < chosen.period.nanos) :
      registry.bucketFor key chosen positive = bucket := by
    rw [bucketFor, found, Option.getD_some]
  rw [hit_of_usable registry key usable, hit_of_usable registry key otherUsable, same, same]

/-- A hit that is counted answers whether the life it belongs to now has more hits in the present
window than its limit. A live bucket does not look at the limits of later hits, and limits that
cannot be used are refused without a trace. -/
theorem hit_eq_history (events : List Event) (key : String) (limits : Limits)
    (elapsed : (empty.run events).now < wordSize)
    (few : countedHits (events ++ [.hit key limits]) < wordSize)
    (clocked : ∀ known ∈ life key (events ++ [.hit key limits]), known.InClock) :
    (limits.Usable → ∃ known, life key (events ++ [.hit key limits]) = some known ∧
      ((empty.run events).hit key limits).1 =
        .ok (decide (known.limits.limit < known.hitsAround (empty.run events).now))) ∧
    ((empty.run events).contains key = true → ∀ other : Limits, limits.Usable → other.Usable →
      (empty.run events).hit key other = (empty.run events).hit key limits) ∧
    (limits.period.nanos = 0 →
      (empty.run events).hit key limits = (.error .zeroPeriod, empty.run events)) ∧
    (0 < limits.period.nanos → limits.limit = 0 →
      (empty.run events).hit key limits = (.error .zeroLimit, empty.run events)) := by
  refine ⟨fun usable => ?_, fun live _ usable otherUsable => ?_, fun period => ?_,
    fun period limit => ?_⟩
  · have told := life_hit key events usable
    have reached := clocked _ told
    have described :=
      (accords_run key events elapsed).bucketFor usable.period_pos elapsed reached
    have bounded := Nat.lt_of_le_of_lt (length_hits_le told) few
    refine ⟨_, told, ?_⟩
    rw [hit_of_usable _ key usable, described.isFull_eq bounded]
    rfl
  · exact hit_eq_of_contains live usable otherUsable
  · exact hit_of_error _ key (Limits.validate_of_zero_period period)
  · exact hit_of_error _ key (Limits.validate_of_zero_limit period limit)

/-- Two hits of three fall in one window; the third one is past the limit of the first, although
it comes with a larger one. -/
theorem hit_eq_history_of_three :
    let limits : Limits := ⟨.ofMillis 100, 1⟩
    let larger : Limits := ⟨.ofMillis 70, 50⟩
    let events := [Event.hit "k" limits, .advance 150_000_000, .hit "k" larger, .advance 49_999_999]
    (empty.run events).now < wordSize ∧
      countedHits (events ++ [.hit "k" larger]) < wordSize ∧
      (∀ known ∈ life "k" (events ++ [.hit "k" larger]), known.InClock) ∧
      ((empty.run events).hit "k" larger).1 = .ok true := by
  intro limits larger events
  have elapsed : (empty.run events).now < wordSize := by decide +kernel
  have few : countedHits (events ++ [.hit "k" larger]) < wordSize := by decide +kernel
  have clocked : ∀ known ∈ life "k" (events ++ [.hit "k" larger]), known.InClock := by
    decide +kernel
  obtain ⟨known, told, answered⟩ :=
    (hit_eq_history events "k" larger elapsed few clocked).1 (by decide +kernel)
  have hits : life "k" (events ++ [.hit "k" larger]) =
      some ⟨limits, 0, [199_999_999, 150_000_000, 0]⟩ := by decide +kernel
  obtain rfl := Option.some.inj (told.symm.trans hits)
  exact ⟨elapsed, few, clocked, answered.trans (congrArg Except.ok (by decide +kernel))⟩

end Registry
end LoginGate
