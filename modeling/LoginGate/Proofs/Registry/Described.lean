import LoginGate.Proofs.Registry.Life

/-! # Buckets and their lives

A bucket keeps a count, the next boundary and the time of its last hit. Its life tells all three:
the count is the number of hits in the present window, and the boundaries lie at multiples of the
period after the creation. Hits, waiting and boundaries preserve this.
-/

namespace LoginGate.Life

theorem window_mono (life : Life) {time later : Nat} (order : time ≤ later) :
    life.window time ≤ life.window later :=
  Nat.div_le_div_right (Nat.sub_le_sub_right order _)

theorem window_boundary {life : Life} (period_pos : 0 < life.period) (j : Nat) :
    life.window (life.created + j * life.period) = j := by
  rw [window, Nat.add_sub_cancel_left, Nat.mul_div_cancel j period_pos]

/-- A window begins at a boundary. -/
theorem window_mul_le {life : Life} {time : Nat} (created_le : life.created ≤ time) :
    life.created + life.window time * life.period ≤ time := by
  have below := Nat.div_mul_le_self (time - life.created) life.period
  rw [window]
  omega

theorem lt_window_succ_mul {life : Life} (period_pos : 0 < life.period) (time : Nat) :
    time < life.created + (life.window time + 1) * life.period := by
  have above := Nat.lt_mul_div_succ (time - life.created) period_pos
  rw [Nat.mul_comm] at above
  rw [window]
  omega

theorem window_eq_of_lt {life : Life} (period_pos : 0 < life.period) {now time : Nat}
    (order : now ≤ time)
    (early : time < life.created + (life.window now + 1) * life.period) :
    life.window time = life.window now := by
  refine Nat.le_antisymm (Nat.lt_succ_iff.mp ?_) (life.window_mono order)
  have created : time - life.created < (life.window now + 1) * life.period := by
    have positive : 0 < (life.window now + 1) * life.period :=
      Nat.mul_pos (Nat.succ_pos _) period_pos
    omega
  exact (Nat.div_lt_iff_lt_mul period_pos).mpr created

/-- No hit falls in a window that begins after all of them. -/
theorem hitsAround_eq_zero {life : Life} {now time : Nat} (hits_le : ∀ hit ∈ life.hits, hit ≤ now)
    (later : life.window now < life.window time) : life.hitsAround time = 0 := by
  rw [hitsAround, List.countP_eq_zero]
  intro hit member
  have before := life.window_mono (hits_le hit member)
  simp only [decide_eq_true_eq]
  omega

theorem hitsAround_hit (life : Life) (now : Nat) :
    (life.hit now).hitsAround now = life.hitsAround now + 1 := by
  have same (time : Nat) : (life.hit now).window time = life.window time := rfl
  simp only [hitsAround, same]
  rw [hit, List.countP_cons_of_pos (by simp)]

/-- What is expired stays expired. -/
theorem Expired.mono {life : Life} {time later : Nat} (expired : life.Expired time)
    (order : time ≤ later) : life.Expired later := by
  obtain ⟨j, positive, idle, reached⟩ := expired
  exact ⟨j, positive, idle, Nat.le_trans reached order⟩

/-- The bucket is what its life makes it at some time, and the life is not over. -/
structure Describes (life : Life) (bucket : Bucket) (now : Nat) : Prop where
  limits_eq : bucket.limits = life.limits
  due_eq : bucket.due = life.created + (life.window now + 1) * life.period
  count_eq : bucket.count = life.hitsAround now % wordSize
  touched_eq : bucket.touched = life.lastHit
  created_le : life.created ≤ now
  hits_le : ∀ hit ∈ life.hits, hit ≤ now
  not_expired : ¬ life.Expired now

namespace Describes

variable {life : Life} {bucket : Bucket} {now : Nat}

theorem period_eq (described : life.Describes bucket now) :
    bucket.limits.period.nanos = life.period := by
  rw [described.limits_eq, period]

theorem period_pos (described : life.Describes bucket now) : 0 < life.period :=
  described.period_eq ▸ bucket.period_pos

theorem lastHit_le (described : life.Describes bucket now) : life.lastHit ≤ now := by
  have created_le := described.created_le
  have hits_le := described.hits_le
  rw [lastHit]
  cases hits : life.hits with
  | nil => exact created_le
  | cons hit rest => exact hits_le hit (by rw [hits]; exact List.mem_cons_self)

theorem lt_due (described : life.Describes bucket now) : now < bucket.due := by
  rw [described.due_eq]
  exact lt_window_succ_mul described.period_pos now

theorem opened {limits : Limits} (period_pos : 0 < limits.period.nanos) (early : now < wordSize)
    (clocked : (Life.opened limits now).InClock) :
    (Life.opened limits now).Describes (Bucket.opened limits period_pos now) now where
  limits_eq := rfl
  due_eq := by
    have first : (Life.opened limits now).window now = 0 := by
      simp [window, Life.opened]
    have reached : Bucket.isBeyondClock (now + limits.period.nanos) = false := clocked
    rw [first, Nat.zero_add, Nat.one_mul, Bucket.opened, Bucket.boundaryAfter, reached]
    rfl
  count_eq := rfl
  touched_eq := by
    have inWord : clamped now = now := Nat.min_eq_left (Nat.le_sub_one_of_lt early)
    exact inWord
  created_le := Nat.le_refl now
  hits_le := by
    intro hit member
    cases member
  not_expired := by
    rintro ⟨j, -, idle, reached⟩
    change now + 2 * limits.period.nanos ≤ now + j * limits.period.nanos at idle
    change now + j * limits.period.nanos ≤ now at reached
    omega

theorem hit (described : life.Describes bucket now) (early : now < wordSize) :
    (life.hit now).Describes (bucket.hit now) now where
  limits_eq := described.limits_eq
  due_eq := described.due_eq
  count_eq := by
    rw [hitsAround_hit, Bucket.hit, described.count_eq, Nat.mod_add_mod]
  touched_eq := by
    have inWord : clamped now = now := Nat.min_eq_left (Nat.le_sub_one_of_lt early)
    exact inWord
  created_le := described.created_le
  hits_le := by
    intro hit member
    rcases List.mem_cons.mp member with rfl | earlier
    · exact Nat.le_refl _
    · exact described.hits_le hit earlier
  not_expired := by
    have positive := described.period_pos
    rintro ⟨j, -, idle, reached⟩
    change now + 2 * life.period ≤ life.created + j * life.period at idle
    change life.created + j * life.period ≤ now at reached
    omega

/-- Nothing happens to a bucket before its next boundary. -/
theorem wait (described : life.Describes bucket now) {time : Nat} (order : now ≤ time)
    (early : time < bucket.due) : life.Describes bucket time := by
  have early' : time < life.created + (life.window now + 1) * life.period :=
    described.due_eq ▸ early
  have same := window_eq_of_lt described.period_pos order early'
  refine ⟨described.limits_eq, ?_, ?_, described.touched_eq,
    Nat.le_trans described.created_le order,
    fun hit member => Nat.le_trans (described.hits_le hit member) order, ?_⟩
  · rw [same, described.due_eq]
  · rw [hitsAround, same, described.count_eq, hitsAround]
  · rintro ⟨j, positive, idle, reached⟩
    -- A boundary before the next one is not later than the present window.
    have passed : j ≤ life.window now := by
      have below := Nat.lt_of_le_of_lt reached early'
      exact Nat.lt_succ_iff.mp (Nat.lt_of_mul_lt_mul_right (Nat.lt_of_add_lt_add_left below))
    have begun := window_mul_le described.created_le
    have earlier := Nat.mul_le_mul_right life.period passed
    exact described.not_expired ⟨j, positive, idle, by omega⟩

/-- A bucket is idle when its life expires at the next boundary. -/
theorem isIdle_iff (described : life.Describes bucket now) (early : bucket.due < wordSize) :
    bucket.isIdle = true ↔ life.lastHit + 2 * life.period ≤ bucket.due := by
  have order : bucket.touched ≤ bucket.due := by
    rw [described.touched_eq]
    exact Nat.le_trans described.lastHit_le (Nat.le_of_lt described.lt_due)
  rw [Bucket.isIdle_iff order early, described.touched_eq, described.period_eq]

/-- The life of an idle bucket ends at the next boundary. -/
theorem expired (described : life.Describes bucket now) (early : bucket.due < wordSize)
    (idle : bucket.isIdle = true) : life.Expired bucket.due := by
  have passed := (described.isIdle_iff early).mp idle
  rw [described.due_eq] at passed ⊢
  exact ⟨life.window now + 1, Nat.succ_pos _, passed, Nat.le_refl _⟩

/-- A bucket that is not idle goes on with an empty window. -/
theorem renewed (described : life.Describes bucket now) (early : bucket.due < wordSize)
    (busy : bucket.isIdle = false) : life.Describes bucket.renewed bucket.due := by
  have positive := described.period_pos
  have due_eq := described.due_eq
  have next : life.window bucket.due = life.window now + 1 := by
    rw [due_eq, window_boundary positive]
  refine ⟨described.limits_eq, ?_, ?_, described.touched_eq, ?_, ?_, ?_⟩
  · have period_le : life.period ≤ bucket.due := by
      have whole : life.period ≤ (life.window now + 1) * life.period :=
        Nat.le_mul_of_pos_left _ (Nat.succ_pos _)
      omega
    have reached : bucket.due + bucket.limits.period.nanos < 2 * wordSize := by
      rw [described.period_eq]
      omega
    change Bucket.boundaryAfter bucket.limits bucket.due = _
    rw [Bucket.boundaryAfter_of_lt reached, described.period_eq, next, due_eq,
      Nat.add_mul (life.window now + 1) 1, Nat.one_mul, Nat.add_assoc]
  · rw [hitsAround_eq_zero described.hits_le (by omega)]
    rfl
  · exact Nat.le_trans described.created_le (Nat.le_of_lt described.lt_due)
  · exact fun hit member =>
      Nat.le_trans (described.hits_le hit member) (Nat.le_of_lt described.lt_due)
  · rintro ⟨j, -, idle, reached⟩
    have late : life.lastHit + 2 * life.period ≤ bucket.due := Nat.le_trans idle reached
    rw [← described.isIdle_iff early, busy] at late
    cases late

/-- Up to any time, the bucket is there and its life goes on, or it is gone and its life is over. -/
theorem pass (described : life.Describes bucket now) {time : Nat} (order : now ≤ time)
    (early : time < wordSize) :
    (∃ passed, bucket.pass time = some passed ∧ life.Describes passed time) ∨
      bucket.pass time = none ∧ life.Expired time := by
  fun_induction Bucket.pass bucket time generalizing now with
  | case1 bucket reached idle =>
    have inWord := Nat.lt_of_le_of_lt reached early
    exact .inr ⟨rfl, (described.expired inWord idle).mono reached⟩
  | case2 bucket reached busy ih =>
    have inWord := Nat.lt_of_le_of_lt reached early
    exact ih (described.renewed inWord (Bool.eq_false_iff.mpr busy)) reached
  | case3 bucket ahead =>
    exact .inl ⟨bucket, rfl, described.wait order (Nat.lt_of_not_le ahead)⟩

end Describes
end LoginGate.Life
