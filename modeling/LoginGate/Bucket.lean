import LoginGate.Limits

/-! # Buckets

A bucket counts the hits on one key. Time is cut into windows by boundaries, which follow the
creation of the bucket at the distance of its period. Every boundary sets the count to zero, and
removes the bucket when the last hit lies two periods back.

Times are nanoseconds since some start. A bucket remembers its last hit as a 64-bit number, which
stands still at the largest one, and its count wraps around in 64 bits.
-/

namespace LoginGate

/-- The number of values of a 64-bit counter. -/
def wordSize : Nat := UInt64.size

/-- A time as a 64-bit number, or the largest such number. -/
def clamped (time : Nat) : Nat :=
  min time (wordSize - 1)

/-- The hits on one key. -/
structure Bucket where
  /-- The limits of the first hit; later hits do not change them. -/
  limits : Limits
  period_pos : 0 < limits.period.nanos
  /-- The next boundary. -/
  due : Nat
  /-- The hits since the last boundary. -/
  count : Nat
  /-- The time of the last hit. -/
  touched : Nat
  deriving DecidableEq, Repr

namespace Bucket

/-- Seconds that lie beyond the clock. -/
def beyondClock : Nat := 1 <<< 63 - 1

/-- The distance of boundaries when the period leads beyond the clock: about thirty years. -/
def farAhead : Nat := 86_400 * 365 * 30 * 1_000_000_000

/-- The clock does not reach a time. -/
def isBeyondClock (time : Nat) : Bool :=
  beyondClock ≤ time / 1_000_000_000

/-- The boundary that follows a time, one period later if the clock reaches that far. -/
def boundaryAfter (limits : Limits) (time : Nat) : Nat :=
  if isBeyondClock (time + limits.period.nanos) then time + farAhead
  else time + limits.period.nanos

def opened (limits : Limits) (period_pos : 0 < limits.period.nanos) (now : Nat) : Bucket :=
  { limits, period_pos, due := boundaryAfter limits now, count := 0, touched := clamped now }

def hit (bucket : Bucket) (now : Nat) : Bucket :=
  { bucket with count := (bucket.count + 1) % wordSize, touched := clamped now }

/-- The next hit is past the limit. -/
def isFull (bucket : Bucket) : Bool :=
  bucket.limits.exceededBy (clamped (bucket.count + 1))

/-- At the next boundary the last hit lies two periods back. -/
def isIdle (bucket : Bucket) : Bool :=
  bucket.limits.idleTimeout.nanos ≤ clamped bucket.due - bucket.touched

/-- The bucket with the next boundary behind it. -/
def renewed (bucket : Bucket) : Bucket :=
  { bucket with count := 0, due := boundaryAfter bucket.limits bucket.due }

/-- Boundaries move on. -/
theorem lt_boundaryAfter {limits : Limits} (period_pos : 0 < limits.period.nanos) (time : Nat) :
    time < boundaryAfter limits time := by
  have far : 0 < farAhead := by decide
  rw [boundaryAfter]
  split <;> omega

/-- While times fit in 64 bits, being idle is a matter of two periods, however long they are. -/
theorem isIdle_iff {bucket : Bucket} (order : bucket.touched ≤ bucket.due)
    (early : bucket.due < wordSize) :
    bucket.isIdle = true ↔ bucket.touched + 2 * bucket.limits.period.nanos ≤ bucket.due := by
  have positive := bucket.period_pos
  rw [isIdle, decide_eq_true_iff, Limits.idleTimeout, Duration.nanos_doubled]
  simp only [Duration.maxNanos, clamped, wordSize, UInt64.size] at early ⊢
  omega

/-- The clock reaches any time that fits in 64 bits twice over. -/
theorem boundaryAfter_of_lt {limits : Limits} {time : Nat}
    (early : time + limits.period.nanos < 2 * wordSize) :
    boundaryAfter limits time = time + limits.period.nanos := by
  have reached : isBeyondClock (time + limits.period.nanos) = false := by
    simp only [isBeyondClock, beyondClock, wordSize, UInt64.size, decide_eq_false_iff_not,
      Nat.shiftLeft_eq] at early ⊢
    omega
  rw [boundaryAfter, if_neg (by simp [reached])]

/-- The bucket after all boundaries up to a time, one after the other, if none of them removes
it. -/
def pass (bucket : Bucket) (now : Nat) : Option Bucket :=
  if bucket.due ≤ now then
    if bucket.isIdle then none else bucket.renewed.pass now
  else some bucket
termination_by now + 1 - bucket.due
decreasing_by
  have later : bucket.due < bucket.renewed.due := lt_boundaryAfter bucket.period_pos bucket.due
  omega

theorem pass_of_lt {bucket : Bucket} {now : Nat} (early : now < bucket.due) :
    bucket.pass now = some bucket := by
  rw [pass, if_neg (Nat.not_le_of_lt early)]

theorem pass_of_isIdle {bucket : Bucket} {now : Nat} (reached : bucket.due ≤ now)
    (idle : bucket.isIdle = true) : bucket.pass now = none := by
  rw [pass, if_pos reached, if_pos idle]

/-- A bucket that is not idle goes on after the next boundary. -/
theorem pass_of_not_isIdle {bucket : Bucket} {now : Nat} (reached : bucket.due ≤ now)
    (busy : bucket.isIdle = false) : bucket.pass now = bucket.renewed.pass now := by
  rw [pass, if_pos reached, if_neg (by simp [busy])]

/-- No boundary is left behind. -/
theorem lt_due_of_pass {bucket passed : Bucket} {now : Nat} (live : bucket.pass now = some passed) :
    now < passed.due := by
  fun_induction pass bucket now with
  | case1 bucket reached idle => cases live
  | case2 bucket reached busy ih => exact ih live
  | case3 bucket early =>
    cases live
    exact Nat.lt_of_not_le early

end Bucket
end LoginGate
