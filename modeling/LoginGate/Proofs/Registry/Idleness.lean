import LoginGate.Duration
import LoginGate.Registry
import Mathlib.Data.Prod.Lex

/-! # Idleness in numbers of limited size

A boundary compares two spans that may both leave their range: the time since the last hit, which is
a difference of 64-bit numbers of nanoseconds, and two periods, where a period has up to 64 bits of
seconds. The longest span takes the place of one that is out of range. The decision is that of whole
numbers of any size all the same, because no time since a hit reaches the longest span.
-/

/-! ## Spans in two parts

A span is a number of nanoseconds; taken apart it has whole seconds, of 64 bits, and the nanoseconds
below a second. Spans compare as their parts do, seconds first, and are doubled part by part.
-/

namespace LoginGate

namespace Duration

/-- The whole seconds of a span and the nanoseconds left over, compared in this order. -/
def parts (span : Duration) : ℕ ×ₗ ℕ :=
  toLex (span.seconds, span.subsecond)

/-- Twice a number of seconds and nanoseconds: the nanoseconds carry over into the seconds, and what
has too many seconds becomes the longest span. -/
def twiceParts (seconds subsecond : Nat) : ℕ ×ₗ ℕ :=
  let carried := 2 * seconds + 2 * subsecond / 1_000_000_000
  if carried < UInt64.size then toLex (carried, 2 * subsecond % 1_000_000_000)
  else toLex (UInt64.size - 1, 999_999_999)

theorem parts_le_parts_iff (first second : Duration) :
    first.parts ≤ second.parts ↔ first.nanos ≤ second.nanos := by
  rw [parts, parts, Prod.Lex.toLex_le_toLex]
  simp only [seconds, subsecond]
  omega

/-- A number of nanoseconds with too many seconds becomes the longest span. -/
theorem parts_ofNanos (nanos : Nat) :
    (ofNanos nanos).parts =
      if nanos / 1_000_000_000 < UInt64.size then
        toLex (nanos / 1_000_000_000, nanos % 1_000_000_000)
      else toLex (UInt64.size - 1, 999_999_999) := by
  rw [parts, seconds, subsecond, nanos_ofNanos, maxNanos, UInt64.size]
  by_cases fits : nanos / 1_000_000_000 < 18446744073709551616
  · rw [if_pos fits, Nat.min_eq_left (by omega)]
  · rw [if_neg fits, Nat.min_eq_right (by omega)]

/-- Spans may be doubled part by part. -/
theorem parts_doubled (span : Duration) :
    span.doubled.parts = twiceParts span.seconds span.subsecond := by
  have whole := span.nanos_eq
  have carried : 2 * span.nanos / 1_000_000_000 =
      2 * span.seconds + 2 * span.subsecond / 1_000_000_000 := by omega
  have left : 2 * span.nanos % 1_000_000_000 = 2 * span.subsecond % 1_000_000_000 := by omega
  rw [doubled, parts_ofNanos, twiceParts, carried, left]

section

variable {seconds subsecond : Nat} (inRange : seconds < UInt64.size)
  (rest : subsecond < 1_000_000_000)
include inRange rest

/-- All seconds of 64 bits with all nanoseconds below a second are spans. -/
theorem nanos_ofSeconds :
    (ofSeconds seconds subsecond).nanos = seconds * 1_000_000_000 + subsecond := by
  rw [ofSeconds, nanos_ofNanos, maxNanos]
  omega

theorem seconds_ofSeconds : (ofSeconds seconds subsecond).seconds = seconds := by
  rw [Duration.seconds, nanos_ofSeconds inRange rest]
  omega

theorem subsecond_ofSeconds : (ofSeconds seconds subsecond).subsecond = subsecond := by
  rw [Duration.subsecond, nanos_ofSeconds inRange rest]
  omega

end

end Duration

/-! ## The decision at a boundary -/

namespace Bucket

/-- A bucket that was hit after its boundary is not idle there. -/
theorem isIdle_eq_false_of_lt {bucket : Bucket} (later : bucket.due < bucket.touched) :
    bucket.isIdle = false := by
  have positive := bucket.period_pos
  have longest : 0 < Duration.maxNanos := by decide
  have clamped_le : clamped bucket.due ≤ bucket.due := Nat.min_le_left _ _
  rw [isIdle, decide_eq_false_iff_not, Limits.idleTimeout, Duration.nanos_doubled]
  omega

theorem isIdle_iff_parts (bucket : Bucket) :
    bucket.isIdle = true ↔
      bucket.limits.period.doubled.parts ≤
        (Duration.ofNanos (clamped bucket.due - bucket.touched)).parts := by
  have inWord : clamped bucket.due ≤ wordSize - 1 := Nat.min_le_right _ _
  have short : wordSize - 1 ≤ Duration.maxNanos := by decide
  rw [Duration.parts_le_parts_iff, Duration.nanos_ofNanos,
    Nat.min_eq_left (show clamped bucket.due - bucket.touched ≤ Duration.maxNanos by omega),
    isIdle, decide_eq_true_iff, Limits.idleTimeout]

end Bucket

namespace Registry

variable {registry : Registry} {key : String} {bucket : Bucket} {nanos : Nat}

/-- When the clock reaches its boundary, a bucket goes if it is idle and stays if it is not. -/
theorem contains_advance_of_due (found : registry.bucket? key = some bucket)
    (reached : registry.now + nanos = bucket.due) :
    (registry.advance nanos).contains key = !bucket.isIdle := by
  rw [contains_eq, bucket?_advance, found, Option.bind_some, reached]
  cases idle : bucket.isIdle with
  | true => rw [Bucket.pass_of_isIdle (Nat.le_refl _) idle, Option.isSome_none, Bool.not_true]
  | false =>
    have ahead : bucket.due < bucket.renewed.due :=
      Bucket.lt_boundaryAfter bucket.period_pos bucket.due
    rw [Bucket.pass_of_not_isIdle (Nat.le_refl _) idle, Bucket.pass_of_lt ahead,
      Option.isSome_some, Bool.not_false]

/-- When the clock reaches a boundary that fits in 64 bits, the bucket is removed if and only if its
last hit lies two periods back, in whole nanoseconds: for every period, also for one that cannot be
doubled within the range of spans. It is never removed if the last hit lies after the boundary. The
same is decided by seconds and nanoseconds, with a carry, and with the longest span in place of one
that is out of range. -/
theorem removed_iff_two_periods {seconds subsecond : Nat} (inRange : seconds < UInt64.size)
    (rest : subsecond < 1_000_000_000) (found : registry.bucket? key = some bucket)
    (period : bucket.limits.period = .ofSeconds seconds subsecond)
    (reached : registry.now + nanos = bucket.due) (early : bucket.due < wordSize) :
    (bucket.touched ≤ bucket.due →
      ((registry.advance nanos).contains key = false ↔
        2 * (seconds * 1_000_000_000 + subsecond) ≤ bucket.due - bucket.touched)) ∧
    (bucket.due < bucket.touched → (registry.advance nanos).contains key = true) ∧
    ((registry.advance nanos).contains key = false ↔
      Duration.twiceParts seconds subsecond ≤
        (Duration.ofNanos (clamped bucket.due - bucket.touched)).parts) := by
  have decided := contains_advance_of_due found reached
  refine ⟨fun order => ?_, fun later => ?_, ?_⟩
  · rw [decided, Bool.not_eq_false', Bucket.isIdle_iff order early, period,
      Duration.nanos_ofSeconds inRange rest]
    omega
  · rw [decided, Bucket.isIdle_eq_false_of_lt later, Bool.not_false]
  · rw [decided, Bool.not_eq_false', Bucket.isIdle_iff_parts, period, Duration.parts_doubled,
      Duration.seconds_ofSeconds inRange rest, Duration.subsecond_ofSeconds inRange rest]

/-- Two of the longest periods are out of range, and the bucket stays at its first boundary. With a
period of 100 a bucket goes exactly two periods after its hit. -/
theorem removed_iff_two_periods_of_longest :
    let longest : Limits := ⟨.ofSeconds 18446744073709551615 999_999_999, 1⟩
    let short : Limits := ⟨.ofSeconds 0 100, 1⟩
    let kept := (empty.hit "k" longest).2
    let expiring := ((empty.hit "k" short).2).advance 100
    longest.idleTimeout = longest.period ∧
      (∃ bucket, kept.bucket? "k" = some bucket ∧ kept.now + Bucket.farAhead = bucket.due ∧
        bucket.due < wordSize ∧ bucket.touched ≤ bucket.due) ∧
      (kept.advance Bucket.farAhead).contains "k" = true ∧
      (∃ bucket, expiring.bucket? "k" = some bucket ∧ expiring.now + 100 = bucket.due ∧
        bucket.due < wordSize ∧ bucket.touched ≤ bucket.due) ∧
      (expiring.advance 100).contains "k" = false := by
  intro longest short kept expiring
  let patient : Bucket := ⟨longest, by decide, Bucket.farAhead, 1, 0⟩
  let idle : Bucket := ⟨short, by decide, 200, 0, 0⟩
  have foundPatient : kept.bucket? "k" = some patient := by decide +kernel
  have foundIdle : expiring.bucket? "k" = some idle := by decide +kernel
  have first : kept.now + Bucket.farAhead = patient.due := by decide +kernel
  have second : expiring.now + 100 = idle.due := by decide +kernel
  have early : patient.due < wordSize ∧ idle.due < wordSize := by decide
  obtain ⟨patience, -⟩ :=
    removed_iff_two_periods (by decide) (by decide) foundPatient rfl first early.1
  obtain ⟨expiry, -⟩ :=
    removed_iff_two_periods (by decide) (by decide) foundIdle rfl second early.2
  refine ⟨by decide +kernel, ⟨patient, foundPatient, first, early.1, Nat.zero_le _⟩, ?_,
    ⟨idle, foundIdle, second, early.2, Nat.zero_le _⟩, ?_⟩
  · rw [← Bool.not_eq_false, patience (Nat.zero_le _)]
    decide
  · rw [expiry (Nat.zero_le _)]
    decide

end Registry
end LoginGate
