import LoginGate.Proofs.Registry.Counting
import Mathlib.Data.Finset.Card

/-! # Expiry

A bucket is looked at only at its boundaries, whose place is fixed by its creation, while it is idle
by the measure of its last hit. So it lives for at least two periods after the last hit, less than
three, and exactly until the first boundary that lies two periods or more after that hit.
-/

namespace LoginGate

namespace Life

variable {life : Life} {time : Nat}

/-- Two periods after the last hit have to pass. -/
theorem not_expired_of_lt (soon : time < life.lastHit + 2 * life.period) : ¬ life.Expired time := by
  rintro ⟨j, -, idle, reached⟩
  omega

/-- In the course of three periods after the last hit there is a boundary that ends the life. -/
theorem expired_of_le (period_pos : 0 < life.period) (created_le : life.created ≤ life.lastHit)
    (late : life.lastHit + 3 * life.period ≤ time) : life.Expired time := by
  have created_le' : life.created ≤ life.lastHit + 3 * life.period :=
    Nat.le_trans created_le (Nat.le_add_right _ _)
  have begun := window_mul_le created_le'
  have ends := lt_window_succ_mul period_pos (life.lastHit + 3 * life.period)
  rw [Nat.add_mul, Nat.one_mul] at ends
  refine ⟨life.window (life.lastHit + 3 * life.period), Nat.pos_of_ne_zero fun first => ?_,
    by omega, Nat.le_trans begun late⟩
  rw [first, Nat.zero_mul] at ends
  omega

end Life

namespace Registry

/-! ## Keys with a life -/

/-- The keys that are hit in a run. -/
def hitKeys (events : List Event) : List String :=
  events.filterMap fun
    | .hit key _ => some key
    | _ => none

/-- The distinct keys whose last hit lies less than three of their periods back. -/
def recentKeys (events : List Event) : Finset String :=
  (hitKeys events).toFinset.filter fun key =>
    (life key events).any fun known =>
      decide ((empty.run events).now < known.lastHit + 3 * known.period)

private theorem mem_hitKeys_of_lifeAlong {key : String} {events : List Event} {registry : Registry}
    {life : Option Life} (told : (lifeAlong key events registry life).isSome) :
    life.isSome ∨ key ∈ hitKeys events := by
  induction events generalizing registry life with
  | nil => exact .inl told
  | cons event rest ih =>
    rcases ih told with before | later
    · cases event with
      | hit other limits =>
        simp only [lifeAfter] at before
        split at before
        · next own => exact .inr (by rw [← own.1]; exact List.mem_cons_self)
        · exact .inl before
      | advance nanos => exact .inl before
      | reset other =>
        simp only [lifeAfter] at before
        split at before
        · cases before
        · exact .inl before
      | shutdown => cases before
    · rw [hitKeys, List.filterMap_cons]
      split
      · exact .inr later
      · exact .inr (List.mem_cons_of_mem _ later)

/-- Only keys that were hit have a life. -/
theorem mem_hitKeys_of_life {key : String} {events : List Event} {known : Life}
    (told : life key events = some known) : key ∈ hitKeys events := by
  have present : (life key events).isSome = true := by rw [told]; rfl
  rcases mem_hitKeys_of_lifeAlong present with impossible | member
  · cases impossible
  · exact member

/-! ## Live keys -/

section

variable {key : String} {events : List Event} {known : Life}

private theorem described_of_contains (elapsed : (empty.run events).now < wordSize)
    (clocked : ∀ known ∈ life key events, known.InClock)
    (live : (empty.run events).contains key = true) :
    ∃ bucket known, (empty.run events).bucket? key = some bucket ∧ life key events = some known ∧
      known.Describes bucket (empty.run events).now := by
  rw [contains_eq] at live
  obtain ⟨bucket, found⟩ := Option.isSome_iff_exists.mp live
  obtain ⟨known, told, described⟩ := (accords_run key events elapsed).live bucket found
  exact ⟨bucket, known, found, told, described (clocked known told)⟩

/-- A key is live as long as its life is not over. -/
private theorem contains_iff (elapsed : (empty.run events).now < wordSize)
    (clocked : ∀ known ∈ life key events, known.InClock) (told : life key events = some known) :
    (empty.run events).contains key = true ↔ ¬ known.Expired (empty.run events).now := by
  constructor
  · intro live
    obtain ⟨bucket, other, -, told', described⟩ := described_of_contains elapsed clocked live
    obtain rfl := Option.some.inj (told.symm.trans told')
    exact described.not_expired
  · intro alive
    rw [contains_eq, Option.isSome_iff_ne_none]
    intro absent
    exact alive ((accords_run key events elapsed).gone absent known told (clocked known told))

/-- A hit on a live bucket leaves it with its limits and its boundaries. -/
private theorem hit_of_contains (elapsed : (empty.run events).now < wordSize)
    (clocked : ∀ known ∈ life key events, known.InClock) (told : life key events = some known)
    (live : (empty.run events).contains key = true) {limits : Limits} (usable : limits.Usable) :
    life key (events ++ [.hit key limits]) = some (known.hit (empty.run events).now) ∧
      ∃ bucket, ((empty.run events).hit key limits).2.bucket? key = some bucket ∧
        bucket.limits = known.limits ∧
        bucket.due =
          known.created + (known.window (empty.run events).now + 1) * known.period := by
  obtain ⟨bucket, other, found, told', described⟩ := described_of_contains elapsed clocked live
  obtain rfl := Option.some.inj (told.symm.trans told')
  constructor
  · rw [life_hit key events usable, lifeFor, live, told]
    rfl
  · refine ⟨bucket.hit (empty.run events).now, ?_, described.limits_eq, described.due_eq⟩
    rw [bucket?_hit _ key key usable, if_pos rfl, bucketFor, found, Option.getD_some]

end

/-- Every live key was hit less than three of its periods ago. -/
private theorem mem_recentKeys {events : List Event} {key : String}
    (elapsed : (empty.run events).now < wordSize)
    (clocked : ∀ known ∈ life key events, known.InClock)
    (live : (empty.run events).contains key = true) : key ∈ recentKeys events := by
  obtain ⟨bucket, known, -, told, described⟩ := described_of_contains elapsed clocked live
  have sound := sound_life told
  have recent : (empty.run events).now < known.lastHit + 3 * known.period :=
    Nat.lt_of_not_le fun late =>
      described.not_expired (Life.expired_of_le sound.period_pos sound.created_le late)
  rw [recentKeys, Finset.mem_filter, List.mem_toFinset]
  exact ⟨mem_hitKeys_of_life told, by rw [told]; simpa using recent⟩

private theorem size_le {events : List Event} (elapsed : (empty.run events).now < wordSize)
    (clocked : ∀ key, ∀ known ∈ life key events, known.InClock) :
    (empty.run events).size ≤ (recentKeys events).card := by
  have recent : (empty.run events).keys.toFinset ⊆ recentKeys events := by
    intro key member
    have live : (empty.run events).contains key = true :=
      Std.ExtTreeMap.mem_keys.mp (List.mem_toFinset.mp member)
    exact mem_recentKeys elapsed (clocked key) live
  have distinct : (empty.run events).keys.Nodup := Std.ExtTreeMap.nodup_keys
  calc (empty.run events).size = (empty.run events).keys.length := Std.ExtTreeMap.length_keys.symm
    _ = (empty.run events).keys.toFinset.card := (List.toFinset_card_of_nodup distinct).symm
    _ ≤ (recentKeys events).card := Finset.card_le_card recent

/-- A key is live until the first boundary of its life that lies two periods or more after its last
hit: for two periods at least, and for less than three. A hit before that continues the life, with
its limits and its boundaries. So the live keys are among those that were hit less than three of
their periods ago. -/
theorem contains_iff_not_expired (events : List Event)
    (elapsed : (empty.run events).now < wordSize)
    (clocked : ∀ key ∈ hitKeys events, ∀ known ∈ life key events, known.InClock) :
    (∀ key known, life key events = some known →
      ((empty.run events).contains key = true ↔
        ¬ ∃ j, 1 ≤ j ∧ known.lastHit + 2 * known.period ≤ known.created + j * known.period ∧
          known.created + j * known.period ≤ (empty.run events).now) ∧
      ((empty.run events).now < known.lastHit + 2 * known.period →
        (empty.run events).contains key = true) ∧
      (known.lastHit + 3 * known.period ≤ (empty.run events).now →
        (empty.run events).contains key = false) ∧
      ((empty.run events).contains key = true → ∀ limits : Limits, limits.Usable →
        life key (events ++ [.hit key limits]) = some (known.hit (empty.run events).now) ∧
        ∃ bucket, ((empty.run events).hit key limits).2.bucket? key = some bucket ∧
          bucket.limits = known.limits ∧
          bucket.due =
            known.created + (known.window (empty.run events).now + 1) * known.period)) ∧
    (∀ key, (empty.run events).contains key = true → (life key events).isSome = true) ∧
    (empty.run events).size ≤ (recentKeys events).card := by
  have clocked (key : String) : ∀ known ∈ life key events, known.InClock := fun known told =>
    clocked key (mem_hitKeys_of_life told) known told
  refine ⟨fun key known told => ⟨?_, fun soon => ?_, fun late => ?_, fun live _ usable => ?_⟩,
    fun key live => ?_, size_le elapsed clocked⟩
  · exact contains_iff elapsed (clocked key) told
  · exact (contains_iff elapsed (clocked key) told).mpr (Life.not_expired_of_lt soon)
  · have sound := sound_life told
    rw [← Bool.not_eq_true, contains_iff elapsed (clocked key) told, not_not]
    exact Life.expired_of_le sound.period_pos sound.created_le late
  · exact hit_of_contains elapsed (clocked key) told live usable
  · obtain ⟨_, known, -, told, -⟩ := described_of_contains elapsed (clocked key) live
    rw [told]
    rfl

/-- Hit at 0 and at 130 with a period of 100, a bucket outlives the boundaries at 200 and 300 and is
gone with the one at 400. -/
theorem contains_iff_not_expired_at_boundary :
    let limits : Limits := ⟨.ofNanos 100, 5⟩
    let before := [Event.hit "k" limits, .advance 130, .hit "k" limits, .advance 269]
    let after := before ++ [.advance 1]
    (empty.run after).now < wordSize ∧
      (∀ key ∈ hitKeys before, ∀ known ∈ life key before, known.InClock) ∧
      (∀ key ∈ hitKeys after, ∀ known ∈ life key after, known.InClock) ∧
      (empty.run before).contains "k" = true ∧ (empty.run after).contains "k" = false := by
  intro limits before after
  have elapsedBefore : (empty.run before).now < wordSize := by decide +kernel
  have elapsedAfter : (empty.run after).now < wordSize := by decide +kernel
  have clockedBefore : ∀ key ∈ hitKeys before, ∀ known ∈ life key before, known.InClock := by
    decide +kernel
  have clockedAfter : ∀ key ∈ hitKeys after, ∀ known ∈ life key after, known.InClock := by
    decide +kernel
  have toldBefore : life "k" before = some ⟨limits, 0, [130, 0]⟩ := by decide +kernel
  have toldAfter : life "k" after = some ⟨limits, 0, [130, 0]⟩ := by decide +kernel
  have timeBefore : (empty.run before).now = 399 := by decide +kernel
  have timeAfter : (empty.run after).now = 400 := by decide +kernel
  refine ⟨elapsedAfter, clockedBefore, clockedAfter, ?_, ?_⟩
  · obtain ⟨live, -⟩ :=
      (contains_iff_not_expired before elapsedBefore clockedBefore).1 "k" _ toldBefore
    rw [live, timeBefore]
    rintro ⟨j, -, idle, reached⟩
    change 130 + 2 * 100 ≤ 0 + j * 100 at idle
    change 0 + j * 100 ≤ 399 at reached
    omega
  · obtain ⟨live, -⟩ :=
      (contains_iff_not_expired after elapsedAfter clockedAfter).1 "k" _ toldAfter
    rw [← Bool.not_eq_true, live, timeAfter, not_not]
    exact ⟨4, by decide, by decide +kernel, by decide +kernel⟩

end Registry
end LoginGate
