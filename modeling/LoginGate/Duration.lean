import LoginGate.Text.Numeral

/-! # Spans of time

A span is a number of nanoseconds below `2 ^ 64` seconds. Arithmetic saturates at the longest span
instead of leaving the range.
-/

namespace LoginGate

/-- The nanoseconds in the longest span, one less than `2 ^ 64` seconds. -/
def Duration.maxNanos : Nat := UInt64.size * 1_000_000_000 - 1

/-- A span of time in nanoseconds. -/
structure Duration where
  nanos : Nat
  nanos_le : nanos ≤ Duration.maxNanos
  deriving DecidableEq, Repr

namespace Duration

/-- The span of this many nanoseconds, or the longest one. -/
def ofNanos (nanos : Nat) : Duration :=
  ⟨min nanos maxNanos, Nat.min_le_right _ _⟩

/-- The span of this many milliseconds, or the longest one. -/
def ofMillis (millis : Nat) : Duration :=
  ofNanos (millis * 1_000_000)

/-- The span of this many seconds and nanoseconds, or the longest one. -/
def ofSeconds (seconds nanos : Nat) : Duration :=
  ofNanos (seconds * 1_000_000_000 + nanos)

def seconds (span : Duration) : Nat :=
  span.nanos / 1_000_000_000

/-- The nanoseconds left over by the whole seconds. -/
def subsecond (span : Duration) : Nat :=
  span.nanos % 1_000_000_000

def isZero (span : Duration) : Bool :=
  span.nanos == 0

def doubled (span : Duration) : Duration :=
  ofNanos (2 * span.nanos)

theorem nanos_ofNanos (nanos : Nat) : (ofNanos nanos).nanos = min nanos maxNanos := rfl

theorem nanos_doubled (span : Duration) : span.doubled.nanos = min (2 * span.nanos) maxNanos := rfl

theorem nanos_eq (span : Duration) :
    span.nanos = span.seconds * 1_000_000_000 + span.subsecond := by
  rw [seconds, subsecond, Nat.mul_comm, Nat.div_add_mod]

/-! ## Spans of time as text

A span is shown in the largest unit of which it holds at least one, with as many decimals as it
takes to show it exactly and no point when there are none.
-/

open Text

/-- The decimals of a fraction over `10 ^ width`, with the point, trailing zeros dropped. -/
def decimals (width fraction : Nat) : List Char :=
  let digits := ((padded width (decimal fraction)).reverse.dropWhile (· == '0')).reverse
  if fraction == 0 then [] else '.' :: digits

/-- The span counted in units of `10 ^ width` nanoseconds. -/
def inUnit (width : Nat) (unit : String) (span : Duration) : List Char :=
  decimal (span.nanos / Nat.pow 10 width) ++ decimals width (span.nanos % Nat.pow 10 width) ++
    unit.toList

/-- The span in seconds, milliseconds, microseconds or nanoseconds. -/
def toText (span : Duration) : List Char :=
  if 1_000_000_000 ≤ span.nanos then inUnit 9 "s" span
  else if 1_000_000 ≤ span.nanos then inUnit 6 "ms" span
  else if 1_000 ≤ span.nanos then inUnit 3 "µs" span
  else inUnit 0 "ns" span

instance : ToString Duration where
  toString span := String.ofList span.toText

end Duration
end LoginGate
