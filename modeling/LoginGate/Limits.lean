import LoginGate.Duration

/-! # Limits and limiters

A limit allows a number of hits within a period. Both have to be positive. A limiter counts hits on
keys against the limits that come with them.
-/

namespace LoginGate

/-- Why limits cannot be used. -/
inductive LimitsFault where
  | zeroPeriod
  | zeroLimit
  deriving DecidableEq, Repr

def LimitsFault.message : LimitsFault → String
  | zeroPeriod => "invalid rate limits: period must be greater than 0"
  | zeroLimit => "invalid rate limits: limit must be greater than 0"

/-- How many hits are allowed within which period. -/
structure Limits where
  period : Duration
  limit : Nat
  deriving DecidableEq, Repr

namespace Limits

/-- The limits themselves if they can be used; a zero period is found first. -/
def validate (limits : Limits) : Except LimitsFault Limits :=
  if limits.period.isZero then .error .zeroPeriod
  else if limits.limit = 0 then .error .zeroLimit
  else .ok limits

def exceededBy (limits : Limits) (count : Nat) : Bool :=
  limits.limit < count

/-- How long a counter may stay without a hit: two periods. -/
def idleTimeout (limits : Limits) : Duration :=
  limits.period.doubled

/-- Limits can be used when both parts are positive. -/
structure Usable (limits : Limits) : Prop where
  period_pos : 0 < limits.period.nanos
  limit_pos : 0 < limits.limit

instance (limits : Limits) : Decidable limits.Usable :=
  decidable_of_iff (0 < limits.period.nanos ∧ 0 < limits.limit)
    ⟨fun ⟨period_pos, limit_pos⟩ => ⟨period_pos, limit_pos⟩,
      fun usable => ⟨usable.period_pos, usable.limit_pos⟩⟩

theorem Usable.validate {limits : Limits} (usable : limits.Usable) :
    limits.validate = .ok limits := by
  have period := Nat.ne_of_gt usable.period_pos
  have limit := Nat.ne_of_gt usable.limit_pos
  simp [Limits.validate, Duration.isZero, period, limit]

/-- A period of zero is found whatever the limit. -/
theorem validate_of_zero_period {limits : Limits} (period : limits.period.nanos = 0) :
    limits.validate = .error .zeroPeriod := by
  simp [validate, Duration.isZero, period]

/-- A limit of zero is found when the period is positive. -/
theorem validate_of_zero_limit {limits : Limits} (period : 0 < limits.period.nanos)
    (limit : limits.limit = 0) : limits.validate = .error .zeroLimit := by
  have period := Nat.ne_of_gt period
  simp [validate, Duration.isZero, period, limit]

/-- Exactly the limits that can be used are accepted. -/
theorem validate_eq_ok_iff (limits valid : Limits) :
    limits.validate = .ok valid ↔ limits = valid ∧ limits.Usable := by
  by_cases period : limits.period.nanos = 0
  · rw [validate_of_zero_period period]
    refine iff_of_false (by simp) fun accepted => ?_
    exact Nat.ne_of_gt accepted.2.period_pos period
  · by_cases limit : limits.limit = 0
    · rw [validate_of_zero_limit (Nat.pos_of_ne_zero period) limit]
      refine iff_of_false (by simp) fun accepted => ?_
      exact Nat.ne_of_gt accepted.2.limit_pos limit
    · have usable : limits.Usable := ⟨Nat.pos_of_ne_zero period, Nat.pos_of_ne_zero limit⟩
      rw [usable.validate]
      simp [usable]

theorem usable_of_validate (limits : Limits) {valid : Limits} (accepted : limits.validate = .ok valid) :
    limits.Usable :=
  ((validate_eq_ok_iff limits valid).mp accepted).2

end Limits

/-! ## Limiters

A limiter may fail to count a hit, in which case nothing changes.
-/

/-- States of a limiter. -/
class Limiter (β : Type) where
  /-- Counts a hit on a key and tells whether it is past the limit. -/
  hit : String → Limits → β → Except LimitsFault Bool × β
  /-- Forgets the hits on a key and tells whether there were any. -/
  reset : String → β → Bool × β

/-- A limiter of which some hits fail. -/
structure UnreliableLimiter (β : Type) where
  inner : β
  /-- How each hit fails, by its number counted from zero, if it does. -/
  plan : Nat → Option LimitsFault
  /-- The hits asked for so far. -/
  hits : Nat := 0

namespace UnreliableLimiter

variable {β : Type}

/-- A limiter that never fails. -/
def reliable (inner : β) : UnreliableLimiter β :=
  { inner, plan := fun _ => none }

instance [Limiter β] : Limiter (UnreliableLimiter β) where
  hit key limits limiter :=
    match limiter.plan limiter.hits with
    | some fault => (.error fault, { limiter with hits := limiter.hits + 1 })
    | none =>
      let (answer, inner) := Limiter.hit key limits limiter.inner
      (answer, { limiter with inner, hits := limiter.hits + 1 })
  reset key limiter :=
    let (found, inner) := Limiter.reset key limiter.inner
    (found, { limiter with inner })

end UnreliableLimiter
end LoginGate
