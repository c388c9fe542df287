import LoginGate.Proofs.Registry.Limits
import Mathlib.Data.List.Nodup
import Mathlib.Logic.Function.Iterate

/-! # The passage of time

Waiting deals with all boundaries up to a time at once. Here a wait is taken apart: the clock moves
in pieces of any length, and boundaries that it has reached are dealt with one by one, of any key,
at any moment from then on. Once none is left behind, the registry is the one that a single wait
leads to.

The clock is virtual here as well. Whatever moment a boundary is dealt with in, it counts for its
own time `due`, and the next boundary is one period after that time. So a moment only says in which
order the work of a wait is done. Nothing is said of a timer that notices a boundary late and starts
the next period then: it moves the boundaries that follow, and its waits cannot be split like this.
-/

namespace LoginGate

/-! ## One bucket -/

namespace Bucket

/-- The bucket after its next boundary, if that is reached and does not remove it. The boundary
counts for the time it is due, however far the clock has gone beyond. -/
def crossed (bucket : Bucket) (now : Nat) : Option Bucket :=
  if bucket.due ≤ now then if bucket.isIdle then none else some bucket.renewed else some bucket

/-- What becomes of a bucket, if there is one, at its next boundary. -/
def crossing (now : Nat) (bucket? : Option Bucket) : Option Bucket :=
  bucket?.bind fun bucket => bucket.crossed now

variable (bucket : Bucket) {now later : Nat}

/-- A boundary may be dealt with ahead of the ones after it. -/
theorem bind_pass_crossed (order : now ≤ later) :
    (bucket.crossed now).bind (·.pass later) = bucket.pass later := by
  rw [crossed]
  split
  · next reached =>
    have reached : bucket.due ≤ later := Nat.le_trans reached order
    split
    · next idle => rw [pass_of_isIdle reached idle, Option.bind_none]
    · next busy =>
      rw [pass_of_not_isIdle reached (Bool.eq_false_iff.mpr busy), Option.bind_some]
  · rw [Option.bind_some]

/-- Boundaries up to a time may be dealt with ahead of the ones after it. -/
theorem bind_pass_pass (order : now ≤ later) :
    (bucket.pass now).bind (·.pass later) = bucket.pass later := by
  fun_induction pass bucket now with
  | case1 bucket reached idle =>
    rw [pass_of_isIdle (Nat.le_trans reached order) idle, Option.bind_none]
  | case2 bucket reached busy ih =>
    rw [ih, pass_of_not_isIdle (Nat.le_trans reached order) (Bool.eq_false_iff.mpr busy)]
  | case3 bucket early => rw [Option.bind_some]

/-- Crossing boundaries often enough leaves none of them behind. -/
theorem iterate_crossed {times : Nat} (enough : now < bucket.due + times) :
    (crossing now)^[times] (some bucket) = bucket.pass now := by
  have gone (times : Nat) : (crossing now)^[times] none = none := Function.iterate_fixed rfl times
  induction times generalizing bucket with
  | zero => exact (pass_of_lt enough).symm
  | succ times ih =>
    rw [Function.iterate_succ_apply, crossing, Option.bind_some, crossed]
    split
    · next reached =>
      split
      · next idle => rw [gone, pass_of_isIdle reached idle]
      · next busy =>
        have further : bucket.due < bucket.renewed.due := lt_boundaryAfter bucket.period_pos _
        rw [ih bucket.renewed (by omega), pass_of_not_isIdle reached (Bool.eq_false_iff.mpr busy)]
    · next ahead => exact ih bucket (by omega)

end Bucket

namespace Registry

/-! ## Moments of a wait -/

/-- What makes up a wait: the clock moves, or the next boundary of a key is dealt with. -/
inductive Tick where
  | wait (nanos : Nat)
  | cross (key : String)
  deriving DecidableEq, Repr

def Tick.nanos : Tick → Nat
  | wait nanos => nanos
  | cross _ => 0

/-- The registry after its virtual clock has moved or a boundary has been dealt with. A boundary
that the clock has not reached is left alone, and one that it has passed does not delay the next. -/
def ticked (registry : Registry) : Tick → Registry
  | .wait nanos => { registry with now := registry.now + nanos }
  | .cross key =>
    { registry with buckets := registry.buckets.alter key (Bucket.crossing registry.now) }

def tickAll (registry : Registry) (ticks : List Tick) : Registry :=
  ticks.foldl ticked registry

def elapsed : List Tick → Nat
  | [] => 0
  | tick :: rest => tick.nanos + elapsed rest

variable (registry : Registry)

theorem tickAll_cons (tick : Tick) (rest : List Tick) :
    registry.tickAll (tick :: rest) = (registry.ticked tick).tickAll rest :=
  List.foldl_cons

theorem now_ticked (tick : Tick) : (registry.ticked tick).now = registry.now + tick.nanos := by
  cases tick <;> rfl

/-- Only the bucket of the key crosses a boundary. -/
theorem bucket?_cross (key other : String) :
    (registry.ticked (.cross key)).bucket? other =
      if key = other then Bucket.crossing registry.now (registry.bucket? other)
      else registry.bucket? other := by
  by_cases own : key = other
  · subst own
    simp [ticked, bucket?]
  · simp [ticked, bucket?, Std.ExtTreeMap.getElem?_alter, own]

/-! ## Catching up -/

theorem advance_advance (first second : Nat) :
    (registry.advance first).advance second = registry.advance (first + second) := by
  have clock : (registry.advance first).now = registry.now + first := rfl
  refine Registry.ext (Nat.add_assoc _ _ _) fun key => ?_
  rw [bucket?_advance, bucket?_advance, bucket?_advance, Option.bind_assoc, clock,
    Nat.add_assoc registry.now first second]
  congr 1
  funext bucket
  exact bucket.bind_pass_pass (by omega)

/-- Whatever part of a wait is done first, the rest catches up. -/
theorem advance_ticked (tick : Tick) (nanos : Nat) :
    (registry.ticked tick).advance nanos = registry.advance (tick.nanos + nanos) := by
  refine Registry.ext ?_ fun key => ?_
  · change (registry.ticked tick).now + nanos = registry.now + (tick.nanos + nanos)
    rw [now_ticked, Nat.add_assoc]
  · rw [bucket?_advance, bucket?_advance, now_ticked, Nat.add_assoc]
    cases tick with
    | wait moved => rfl
    | cross other =>
      rw [bucket?_cross]
      split
      · rw [Bucket.crossing, Option.bind_assoc]
        congr 1
        funext bucket
        exact bucket.bind_pass_crossed (Nat.le_add_right _ _)
      · rfl

theorem advance_tickAll (ticks : List Tick) (nanos : Nat) :
    (registry.tickAll ticks).advance nanos = registry.advance (elapsed ticks + nanos) := by
  induction ticks generalizing registry with
  | nil => rw [elapsed, Nat.zero_add, tickAll, List.foldl_nil]
  | cons tick rest ih => rw [tickAll_cons, ih, advance_ticked, elapsed, Nat.add_assoc]

variable {registry}

/-- A registry that has left no boundary behind need not catch up. -/
theorem advance_zero (settled : registry.Still 0) : registry.advance 0 = registry :=
  Registry.ext (Nat.add_zero _) (bucket?_advance_of_still settled)

/-- Moments that leave no boundary behind make up a wait. -/
theorem tickAll_eq_advance {ticks : List Tick} (settled : (registry.tickAll ticks).Still 0) :
    registry.tickAll ticks = registry.advance (elapsed ticks) := by
  rw [← advance_zero settled, advance_tickAll, Nat.add_zero]

/-! ## The order of boundaries -/

variable (registry)

theorem now_crossings (keys : List String) :
    (registry.tickAll (keys.map .cross)).now = registry.now := by
  induction keys generalizing registry with
  | nil => rfl
  | cons key rest ih => rw [List.map_cons, tickAll_cons, ih, now_ticked, Tick.nanos, Nat.add_zero]

/-- Of several boundaries, a bucket has crossed as many as its key was named. -/
theorem bucket?_crossings (keys : List String) (key : String) :
    (registry.tickAll (keys.map .cross)).bucket? key =
      (Bucket.crossing registry.now)^[keys.count key] (registry.bucket? key) := by
  induction keys generalizing registry with
  | nil => rfl
  | cons first rest ih =>
    rw [List.map_cons, tickAll_cons, ih, bucket?_cross, now_ticked, Tick.nanos, Nat.add_zero,
      List.count_cons]
    split
    · next own => rw [own, beq_self_eq_true, if_pos rfl, Function.iterate_succ_apply]
    · next other => rw [if_neg (by simpa using other), Nat.add_zero]

/-- The order in which boundaries are dealt with makes no difference. -/
theorem crossings_eq_of_perm {keys other : List String} (reordered : keys.Perm other) :
    registry.tickAll (keys.map .cross) = registry.tickAll (other.map .cross) := by
  refine Registry.ext ?_ fun key => ?_
  · rw [now_crossings, now_crossings]
  · rw [bucket?_crossings, bucket?_crossings, reordered.count_eq]

/-- No boundary has to be left behind. -/
theorem exists_crossings :
    ∃ keys : List String, registry.tickAll (keys.map .cross) = registry.advance 0 := by
  -- A bucket meets at most one boundary in each nanosecond.
  refine ⟨(List.replicate (registry.now + 1) registry.keys).flatten,
    Registry.ext (now_crossings _ _) fun key => ?_⟩
  rw [bucket?_crossings, bucket?_advance, Nat.add_zero, List.count_flatten, List.map_replicate,
    List.sum_replicate_nat]
  cases found : registry.bucket? key with
  | none => exact Function.iterate_fixed rfl _
  | some bucket =>
    have live : key ∈ registry.keys := by
      rw [keys, Std.ExtTreeMap.mem_keys, ← Std.ExtTreeMap.contains_iff_mem, ← contains,
        contains_eq, found]
      rfl
    have once : registry.keys.count key = 1 :=
      List.count_eq_one_of_mem Std.ExtTreeMap.nodup_keys live
    rw [once, Nat.mul_one, Option.bind_some]
    exact bucket.iterate_crossed (by omega)

end Registry
end LoginGate
