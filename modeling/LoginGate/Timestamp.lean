import LoginGate.Duration

/-! # Points in time

A timestamp counts seconds from the start of 1970 in UTC and nanoseconds within the second. A leap
second is the second before it with `10 ^ 9` nanoseconds or more, so timestamps compare by seconds
first and nanoseconds second.

The calendar is the proleptic Gregorian one, with years counted from a March so that the leap day
comes last.
-/

namespace LoginGate

/-- A point in time, in UTC. -/
structure Timestamp where
  seconds : Int
  nanos : Nat
  deriving DecidableEq, Repr

/-- A day of the calendar. -/
structure Date where
  year : Int
  month : Nat
  day : Nat
  deriving DecidableEq, Repr

namespace Date

def isLeapYear (year : Int) : Bool :=
  year % 4 == 0 && (year % 100 != 0 || year % 400 == 0)

def monthLength (year : Int) (month : Nat) : Nat :=
  match month with
  | 2 => if isLeapYear year then 29 else 28
  | 4 | 6 | 9 | 11 => 30
  | _ => 31

def isValid (date : Date) : Bool :=
  1 ≤ date.month && date.month ≤ 12 && 1 ≤ date.day &&
    date.day ≤ monthLength date.year date.month

/-- Days from the first of March to the first of the month that comes `index` months later. -/
def daysBeforeMonth (index : Int) : Int :=
  (153 * index + 2) / 5

/-- Days since the start of 1970. -/
def toDays (date : Date) : Int :=
  let year := if date.month ≤ 2 then date.year - 1 else date.year
  let era := year / 400
  let yearOfEra := year % 400
  let monthIndex : Int := (date.month + 9) % 12
  let dayOfYear := daysBeforeMonth monthIndex + date.day - 1
  era * 146097 + (yearOfEra * 365 + yearOfEra / 4 - yearOfEra / 100 + dayOfYear) - 719468

/-- The date that many days since the start of 1970. -/
def ofDays (days : Int) : Date :=
  let shifted := days + 719468
  let era := shifted / 146097
  let dayOfEra := shifted % 146097
  let yearOfEra := (dayOfEra - dayOfEra / 1460 + dayOfEra / 36524 - dayOfEra / 146096) / 365
  let dayOfYear := dayOfEra - (365 * yearOfEra + yearOfEra / 4 - yearOfEra / 100)
  let monthIndex := (5 * dayOfYear + 2) / 153
  let day := dayOfYear - daysBeforeMonth monthIndex + 1
  let month := if monthIndex < 10 then monthIndex + 3 else monthIndex - 9
  let year := yearOfEra + era * 400
  ⟨if month ≤ 2 then year + 1 else year, month.toNat, day.toNat⟩

end Date

namespace Timestamp

def atMost (earlier later : Timestamp) : Bool :=
  earlier.seconds < later.seconds ||
    (earlier.seconds == later.seconds && earlier.nanos ≤ later.nanos)

theorem atMost_iff {earlier later : Timestamp} :
    earlier.atMost later = true ↔ earlier.seconds < later.seconds ∨
      earlier.seconds = later.seconds ∧ earlier.nanos ≤ later.nanos := by
  simp [atMost]

theorem atMost_trans {first second third : Timestamp} (before : first.atMost second = true)
    (after : second.atMost third = true) : first.atMost third = true := by
  rw [atMost_iff] at *
  omega

theorem atMost_total (first second : Timestamp) :
    first.atMost second = true ∨ second.atMost first = true := by
  rw [atMost_iff, atMost_iff]
  omega

/-- The point in time a span later. A leap second counts only as long as the span ends within it. -/
def after (start : Timestamp) (span : Duration) : Timestamp :=
  let nanos := start.nanos + span.nanos
  if 1_000_000_000 ≤ start.nanos && nanos < 2_000_000_000 then ⟨start.seconds, nanos⟩
  else
    let nanos := start.nanos % 1_000_000_000 + span.nanos
    ⟨start.seconds + (nanos / 1_000_000_000 : Nat), nanos % 1_000_000_000⟩

def date (time : Timestamp) : Date :=
  Date.ofDays (time.seconds / 86400)

def secondOfDay (time : Timestamp) : Nat :=
  (time.seconds % 86400).toNat

end Timestamp
end LoginGate
