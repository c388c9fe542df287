import LoginGate.Registry

/-! # What a key lets pass

While all hits on a key come with the same limits, its windows do not overlap, whichever bucket they
belong to: a new bucket begins its first window when all windows of the ones before are over. Each
window lets no more hits pass than the limit, so a span of time that some windows cover lets pass no
more than that many times the limit.
-/

namespace LoginGate

/-- A hit that was within the limit. -/
structure Pass where
  time : Nat
  /-- The boundary that ends its window. -/
  ends : Nat
  deriving DecidableEq, Repr

/-- The hits of a window among some hits that passed. -/
def passesUntil (passes : List Pass) (ends : Nat) : Nat :=
  passes.countP fun pass => pass.ends = ends

theorem passesUntil_cons (pass : Pass) (passes : List Pass) (ends : Nat) :
    passesUntil (pass :: passes) ends =
      passesUntil passes ends + if pass.ends = ends then 1 else 0 := by
  simp only [passesUntil, List.countP_cons, decide_eq_true_eq]

/-- The hits among them whose windows end after a start and not after a stop. -/
def passesBetween (passes : List Pass) (start stop : Nat) : Nat :=
  passes.countP fun pass => start < pass.ends ∧ pass.ends ≤ stop

/-- The hits that passed lie in windows of one length that do not overlap, and no window holds more
of them than the limit. -/
structure Windowed (limits : Limits) (passes : List Pass) : Prop where
  inside : ∀ pass ∈ passes, pass.time < pass.ends ∧ pass.ends ≤ pass.time + limits.period.nanos
  apart : ∀ first ∈ passes, ∀ second ∈ passes, first.ends < second.ends →
    first.ends + limits.period.nanos ≤ second.ends
  few : ∀ ends, passesUntil passes ends ≤ limits.limit

/-- The bucket counts at least what passed in its window, and what passed before lies in earlier
windows. It has counted no more than some number of hits. -/
structure Bucket.Meters (bucket : Bucket) (limits : Limits) (hits now : Nat)
    (passes : List Pass) : Prop where
  limits_eq : bucket.limits = limits
  lt_due : now < bucket.due
  due_le : bucket.due ≤ now + limits.period.nanos
  count_le : bucket.count ≤ hits
  passed_le : passesUntil passes bucket.due ≤ bucket.count
  earlier : ∀ pass ∈ passes,
    pass.ends = bucket.due ∨ pass.ends + limits.period.nanos ≤ bucket.due

/-- The registry counts for a key what passed, or all windows in which something passed are over. -/
structure Registry.Meters (registry : Registry) (key : String) (limits : Limits) (hits : Nat)
    (passes : List Pass) : Prop where
  windowed : Windowed limits passes
  live : ∀ bucket, registry.bucket? key = some bucket →
    bucket.Meters limits hits registry.now passes
  gone : registry.bucket? key = none → ∀ pass ∈ passes, pass.ends ≤ registry.now

namespace Windowed

variable {limits : Limits} {passes : List Pass}

theorem nil : Windowed limits [] where
  inside _ member := by cases member
  apart _ member := by cases member
  few _ := Nat.zero_le _

/-- One more hit passes in the last window, which holds fewer than the limit. -/
theorem cons (windowed : Windowed limits passes) {pass : Pass}
    (inside : pass.time < pass.ends ∧ pass.ends ≤ pass.time + limits.period.nanos)
    (last : ∀ other ∈ passes,
      other.ends = pass.ends ∨ other.ends + limits.period.nanos ≤ pass.ends)
    (room : passesUntil passes pass.ends < limits.limit) : Windowed limits (pass :: passes) where
  inside := List.forall_mem_cons.mpr ⟨inside, windowed.inside⟩
  apart first member second member' order := by
    rcases List.mem_cons.mp member with rfl | earlier
    · rcases List.mem_cons.mp member' with rfl | earlier'
      · exact absurd order (Nat.lt_irrefl _)
      · rcases last second earlier' with same | past <;> omega
    · rcases List.mem_cons.mp member' with rfl | earlier'
      · rcases last first earlier with same | past <;> omega
      · exact windowed.apart first earlier second earlier' order
  few ends := by
    rw [passesUntil_cons]
    split
    · next same =>
      subst same
      exact room
    · exact windowed.few ends

/-! ## Spans of time -/

private theorem countP_le_add {p q r : Pass → Bool} (passes : List Pass)
    (covered : ∀ pass, p pass = true → q pass = true ∨ r pass = true) :
    passes.countP p ≤ passes.countP q + passes.countP r := by
  induction passes with
  | nil => exact Nat.le_refl _
  | cons pass rest ih =>
    rw [List.countP_cons, List.countP_cons, List.countP_cons]
    have here := covered pass
    split
    · next met =>
      rcases here met with first | second
      · rw [if_pos first]
        omega
      · rw [if_pos second]
        omega
    · omega

/-- What ends within one period belongs to one window. -/
private theorem passesBetween_period_le (windowed : Windowed limits passes) (start : Nat) :
    passesBetween passes start (start + limits.period.nanos) ≤ limits.limit := by
  by_cases found : ∃ pass ∈ passes, start < pass.ends ∧ pass.ends ≤ start + limits.period.nanos
  · obtain ⟨one, member, after, before⟩ := found
    calc passesBetween passes start (start + limits.period.nanos)
        ≤ passesUntil passes one.ends := by
          apply List.countP_mono_left
          intro pass present inSlot
          obtain ⟨later, sooner⟩ := of_decide_eq_true inSlot
          apply decide_eq_true
          -- Windows with different ends are a whole period apart.
          rcases Nat.lt_trichotomy pass.ends one.ends with less | same | greater
          · have far := windowed.apart pass present one member less
            omega
          · exact same
          · have far := windowed.apart one member pass present greater
            omega
      _ ≤ limits.limit := windowed.few one.ends
  · have none : passesBetween passes start (start + limits.period.nanos) = 0 := by
      apply List.countP_eq_zero.mpr
      intro pass present inSlot
      exact found ⟨pass, present, of_decide_eq_true inSlot⟩
    rw [none]
    exact Nat.zero_le _

/-- What ends within some periods belongs to as many windows. -/
private theorem passesBetween_periods_le (windowed : Windowed limits passes) (start periods : Nat) :
    passesBetween passes start (start + periods * limits.period.nanos) ≤
      periods * limits.limit := by
  induction periods with
  | zero =>
    apply Nat.le_of_eq
    rw [passesBetween, Nat.zero_mul, Nat.zero_mul, List.countP_eq_zero]
    intro pass present inSlots
    have bounds := of_decide_eq_true inSlots
    omega
  | succ periods ih =>
    have last := windowed.passesBetween_period_le (start + periods * limits.period.nanos)
    rw [Nat.add_mul, Nat.add_mul, Nat.one_mul, Nat.one_mul, ← Nat.add_assoc]
    refine Nat.le_trans (countP_le_add passes fun pass inSlots => ?_) (Nat.add_le_add ih last)
    obtain ⟨after, before⟩ := of_decide_eq_true inSlots
    by_cases sooner : pass.ends ≤ start + periods * limits.period.nanos
    · exact .inl (decide_eq_true ⟨after, sooner⟩)
    · exact .inr (decide_eq_true ⟨Nat.lt_of_not_le sooner, before⟩)

/-- A span as long as some periods holds no more passes than one more period lets through. -/
theorem countP_span_le (windowed : Windowed limits passes) (start periods : Nat) :
    (passes.countP fun pass =>
      start ≤ pass.time ∧ pass.time < start + periods * limits.period.nanos) ≤
        (periods + 1) * limits.limit := by
  calc (passes.countP fun pass =>
        start ≤ pass.time ∧ pass.time < start + periods * limits.period.nanos)
      ≤ passesBetween passes start (start + (periods + 1) * limits.period.nanos) := by
        apply List.countP_mono_left
        intro pass member inSpan
        obtain ⟨after, before⟩ := of_decide_eq_true inSpan
        obtain ⟨begun, ended⟩ := windowed.inside pass member
        rw [Nat.add_mul, Nat.one_mul]
        exact decide_eq_true ⟨by omega, by omega⟩
    _ ≤ (periods + 1) * limits.limit := windowed.passesBetween_periods_le start (periods + 1)

end Windowed

/-! ## Buckets -/

namespace Bucket.Meters

variable {bucket : Bucket} {limits : Limits} {hits now : Nat} {passes : List Pass}

/-- A window that begins when all others are closed is empty. -/
private theorem begun {start : Nat} (limits_eq : bucket.limits = limits)
    (due : bucket.due = start + limits.period.nanos) (count : bucket.count = 0)
    (closed : ∀ pass ∈ passes, pass.ends ≤ start) : bucket.Meters limits hits start passes := by
  have period_pos : 0 < limits.period.nanos := limits_eq ▸ bucket.period_pos
  have none : passesUntil passes bucket.due = 0 := by
    rw [passesUntil, List.countP_eq_zero]
    intro pass member same
    have before := closed pass member
    have ends := of_decide_eq_true same
    omega
  refine ⟨limits_eq, ?_, Nat.le_of_eq due, ?_, ?_, ?_⟩
  · omega
  · rw [count]
    exact Nat.zero_le _
  · rw [none]
    exact Nat.zero_le _
  · intro pass member
    have before := closed pass member
    omega

/-- A new bucket begins its first window. -/
theorem opened (period_pos : 0 < limits.period.nanos) (short : limits.period.nanos ≤ wordSize)
    (early : now < wordSize) (closed : ∀ pass ∈ passes, pass.ends ≤ now) :
    (Bucket.opened limits period_pos now).Meters limits hits now passes := by
  have due : (Bucket.opened limits period_pos now).due = now + limits.period.nanos :=
    boundaryAfter_of_lt (by omega)
  exact begun rfl due rfl closed

private theorem count_hit (meters : bucket.Meters limits hits now passes)
    (room : hits + 1 < wordSize) : (bucket.hit now).count = bucket.count + 1 := by
  have counted := meters.count_le
  exact Nat.mod_eq_of_lt (by omega)

theorem hit (meters : bucket.Meters limits hits now passes) (room : hits + 1 < wordSize) :
    (bucket.hit now).Meters limits (hits + 1) now passes := by
  refine ⟨meters.limits_eq, meters.lt_due, meters.due_le, ?_, ?_, meters.earlier⟩
  · rw [meters.count_hit room]
    exact Nat.succ_le_succ meters.count_le
  · rw [meters.count_hit room]
    exact Nat.le_succ_of_le meters.passed_le

theorem pass_hit (meters : bucket.Meters limits hits now passes) (room : hits + 1 < wordSize) :
    (bucket.hit now).Meters limits (hits + 1) now (⟨now, bucket.due⟩ :: passes) := by
  have counted := meters.hit room
  refine ⟨counted.limits_eq, counted.lt_due, counted.due_le, counted.count_le, ?_, ?_⟩
  · have own : bucket.due = (bucket.hit now).due := rfl
    rw [meters.count_hit room, passesUntil_cons, if_pos own]
    exact Nat.succ_le_succ meters.passed_le
  · exact List.forall_mem_cons.mpr ⟨.inl rfl, counted.earlier⟩

/-- A bucket that is not full has room for one more pass in its window. -/
theorem passesUntil_lt (meters : bucket.Meters limits hits now passes)
    (room : hits + 1 < wordSize) (within : bucket.isFull = false) :
    passesUntil passes bucket.due < limits.limit := by
  have counted := meters.count_le
  have passed := meters.passed_le
  rw [isFull, Limits.exceededBy, meters.limits_eq, decide_eq_false_iff_not, clamped,
    Nat.min_eq_left (by omega)] at within
  omega

/-- A boundary begins the next window. -/
private theorem renewed (meters : bucket.Meters limits hits now passes)
    (short : limits.period.nanos ≤ wordSize) (early : bucket.due < wordSize) :
    bucket.renewed.Meters limits hits bucket.due passes := by
  have due : bucket.renewed.due = bucket.due + limits.period.nanos := by
    rw [← meters.limits_eq] at short ⊢
    exact boundaryAfter_of_lt (by omega)
  have closed : ∀ pass ∈ passes, pass.ends ≤ bucket.due := by
    intro pass member
    rcases meters.earlier pass member with present | past <;> omega
  exact begun meters.limits_eq due rfl closed

/-- Up to any time, the bucket is there and goes on counting, or it is gone and all windows are
over. -/
theorem pass (meters : bucket.Meters limits hits now passes)
    (short : limits.period.nanos ≤ wordSize) {time : Nat} (order : now ≤ time)
    (early : time < wordSize) :
    (∃ passed, bucket.pass time = some passed ∧ passed.Meters limits hits time passes) ∨
      bucket.pass time = none ∧ ∀ pass ∈ passes, pass.ends ≤ time := by
  fun_induction Bucket.pass bucket time generalizing now with
  | case1 bucket reached idle =>
    refine .inr ⟨rfl, fun pass member => ?_⟩
    rcases meters.earlier pass member with present | past <;> omega
  | case2 bucket reached busy ih =>
    exact ih (meters.renewed short (Nat.lt_of_le_of_lt reached early)) reached
  | case3 bucket ahead =>
    have due_le := meters.due_le
    exact .inl ⟨bucket, rfl, { meters with
      lt_due := Nat.lt_of_not_le ahead
      due_le := by omega }⟩

end Bucket.Meters

/-! ## Registries -/

namespace Registry.Meters

variable {registry after : Registry} {key : String} {limits : Limits} {hits : Nat}
  {passes : List Pass}

protected theorem empty (key : String) (limits : Limits) (hits : Nat) :
    Registry.empty.Meters key limits hits [] where
  windowed := .nil
  live bucket found := by
    rw [bucket?_empty] at found
    cases found
  gone _ _ member := by cases member

/-- What leaves the clock and the bucket of the key alone does not matter, nor does a larger number
of hits. -/
theorem frame (meters : registry.Meters key limits hits passes)
    (bucket : after.bucket? key = registry.bucket? key) (clock : after.now = registry.now)
    {more : Nat} (order : hits ≤ more) :
    after.Meters key limits more passes where
  windowed := meters.windowed
  live := by
    rw [clock, bucket]
    intro bucket found
    have before := meters.live bucket found
    exact { before with count_le := Nat.le_trans before.count_le order }
  gone := by rw [clock, bucket]; exact meters.gone

theorem advance (meters : registry.Meters key limits hits passes)
    (short : limits.period.nanos ≤ wordSize) {nanos : Nat}
    (early : registry.now + nanos < wordSize) :
    (registry.advance nanos).Meters key limits hits passes where
  windowed := meters.windowed
  live bucket found := by
    rw [bucket?_advance] at found
    obtain ⟨earlier, present, passed⟩ := Option.bind_eq_some_iff.mp found
    have order := Nat.le_add_right registry.now nanos
    rcases (meters.live earlier present).pass short order early with ⟨_, same, kept⟩ | ⟨gone, -⟩
    · rw [same] at passed
      obtain rfl := Option.some.inj passed
      exact kept
    · rw [gone] at passed
      cases passed
  gone absent pass member := by
    rw [bucket?_advance] at absent
    have order := Nat.le_add_right registry.now nanos
    cases present : registry.bucket? key with
    | none => exact Nat.le_trans (meters.gone present pass member) order
    | some bucket =>
      rw [present, Option.bind_some] at absent
      rcases (meters.live bucket present).pass short order early with ⟨_, passed, -⟩ | ⟨-, closed⟩
      · rw [passed] at absent
        cases absent
      · exact closed pass member

/-- The bucket that a hit counts on is metered. -/
theorem bucketFor (meters : registry.Meters key limits hits passes)
    (period_pos : 0 < limits.period.nanos) (short : limits.period.nanos ≤ wordSize)
    (early : registry.now < wordSize) :
    (registry.bucketFor key limits period_pos).Meters limits hits registry.now passes := by
  rw [Registry.bucketFor]
  cases found : registry.bucket? key with
  | none => exact .opened period_pos short early (meters.gone found)
  | some bucket => exact meters.live bucket found

section

variable {period_pos : 0 < limits.period.nanos} (short : limits.period.nanos ≤ wordSize)
  (early : registry.now < wordSize) (room : hits + 1 < wordSize)

include short early room

theorem hit (meters : registry.Meters key limits hits passes) (clock : after.now = registry.now)
    (counted : after.bucket? key =
      some ((registry.bucketFor key limits period_pos).hit registry.now)) :
    after.Meters key limits (hits + 1) passes where
  windowed := meters.windowed
  live bucket found := by
    obtain rfl := Option.some.inj (counted.symm.trans found)
    rw [clock]
    exact (meters.bucketFor period_pos short early).hit room
  gone absent := by
    rw [counted] at absent
    cases absent

theorem pass_hit (meters : registry.Meters key limits hits passes)
    (clock : after.now = registry.now)
    (counted : after.bucket? key =
      some ((registry.bucketFor key limits period_pos).hit registry.now))
    (within : (registry.bucketFor key limits period_pos).isFull = false) :
    after.Meters key limits (hits + 1)
      (⟨registry.now, (registry.bucketFor key limits period_pos).due⟩ :: passes) := by
  have bucket := meters.bucketFor period_pos short early
  refine ⟨?_, fun other found => ?_, fun absent => ?_⟩
  · exact meters.windowed.cons ⟨bucket.lt_due, bucket.due_le⟩ bucket.earlier
      (bucket.passesUntil_lt room within)
  · obtain rfl := Option.some.inj (counted.symm.trans found)
    rw [clock]
    exact bucket.pass_hit room
  · rw [counted] at absent
    cases absent

end

end Registry.Meters
end LoginGate
