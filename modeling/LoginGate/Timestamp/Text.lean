import LoginGate.Text.Fields
import LoginGate.Text.Numeral
import LoginGate.Timestamp

/-! # Timestamps as text

Timestamps are written in the profile of RFC 3339 with `T` and `Z`, and with as many decimals as it
takes to show the fraction exactly in groups of three. Years outside four digits carry a sign.

Reading is looser: digits need not be padded, blanks may stand around the parts, `T` may be lower
case or a space, and any offset is turned into UTC. `Fault` tells the ways in which it fails apart.
-/

namespace LoginGate.Timestamp

open Text

/-- Why a text is not a timestamp. -/
inductive Fault where
  /-- A part has a value it cannot have. -/
  | outOfRange
  /-- The offset leads out of the calendar. -/
  | impossible
  /-- A character is not the expected one. -/
  | invalid
  /-- The text ends too early. -/
  | tooShort
  /-- Something follows the timestamp. -/
  | tooLong
  deriving DecidableEq, Repr

def Fault.message : Fault → String
  | .outOfRange => "input is out of range"
  | .impossible => "no possible date and time matching input"
  | .invalid => "input contains invalid characters"
  | .tooShort => "premature end of input"
  | .tooLong => "trailing input"

/-! ## Writing -/

def yearText (year : Int) : List Char :=
  if 0 ≤ year ∧ year ≤ 9999 then padded 4 (decimal year.toNat)
  else (if year < 0 then '-' else '+') :: padded 4 (decimal year.natAbs)

/-- The fraction of a second in the fewest groups of three decimals that show it exactly. -/
def fractionText (nanos : Nat) : List Char :=
  if nanos == 0 then []
  else if nanos % 1_000_000 == 0 then '.' :: padded 3 (decimal (nanos / 1_000_000))
  else if nanos % 1_000 == 0 then '.' :: padded 6 (decimal (nanos / 1_000))
  else '.' :: padded 9 (decimal nanos)

def pair (n : Nat) : List Char :=
  padded 2 (decimal n)

def toText (time : Timestamp) : List Char :=
  let date := time.date
  let clock := time.secondOfDay
  let second := clock % 60 + time.nanos / 1_000_000_000
  yearText date.year ++ '-' :: pair date.month ++ '-' :: pair date.day ++
    'T' :: pair (clock / 3600) ++ ':' :: pair (clock / 60 % 60) ++ ':' :: pair second ++
    fractionText (time.nanos % 1_000_000_000) ++ ['Z']

instance : ToString Timestamp where
  toString time := String.ofList time.toText

/-! ## Reading -/

/-! Every step of reading gives its value and the text that is left. -/

/-- A number of at least one and at most `most` digits, not above the largest 64-bit integer. -/
def number (most : Nat) (text : List Char) : Except Fault (Nat × List Char) :=
  let digits := (text.take most).takeWhile isDecimal
  match numeral? 10 digits with
  | none => .error (if text.isEmpty then .tooShort else .invalid)
  | some value =>
    if value ≤ Int64.maxValue.toInt then .ok (value, text.drop digits.length)
    else .error .outOfRange

/-- A number that has to lie between two bounds, after any blanks. -/
def bounded (low high most : Nat) (text : List Char) : Except Fault (Nat × List Char) := do
  let (value, rest) ← number most (trimLeft text)
  if low ≤ value ∧ value ≤ high then .ok (value, rest) else .error .outOfRange

def literal (c : Char) : List Char → Except Fault (Unit × List Char)
  | [] => .error .tooShort
  | d :: rest => if d = c then .ok ((), rest) else .error .invalid

/-- The year: four digits at most, or any number of them after a sign. -/
def readYear (text : List Char) : Except Fault (Int × List Char) := do
  let (year, rest) ← match trimLeft text with
    | '-' :: digits => do
      let (value, rest) ← number digits.length digits
      .ok (-(value : Int), rest)
    | '+' :: digits => do
      let (value, rest) ← number digits.length digits
      .ok ((value : Int), rest)
    | digits => do
      let (value, rest) ← number 4 digits
      .ok ((value : Int), rest)
  if Int32.minValue.toInt ≤ year ∧ year ≤ Int32.maxValue.toInt then .ok (year, rest)
  else .error .outOfRange

/-- Year, month and day, not yet checked against each other. -/
def readDate (text : List Char) : Except Fault (Date × List Char) := do
  let (year, text) ← readYear text
  let ((), text) ← literal '-' (trimLeft text)
  let (month, text) ← bounded 1 12 2 text
  let ((), text) ← literal '-' (trimLeft text)
  let (day, text) ← bounded 1 31 2 text
  .ok (⟨year, month, day⟩, text)

/-- The fraction after a point, cut off after nine digits. -/
def readFraction : List Char → Except Fault (Nat × List Char)
  | '.' :: text => do
    let (value, rest) ← number 9 text
    let width := text.length - rest.length
    .ok (value * Nat.pow 10 (9 - width), rest.dropWhile isDecimal)
  | text => .ok (0, text)

/-- Seconds since midnight and nanoseconds; second 60 is a leap second. -/
def readClock (text : List Char) : Except Fault ((Nat × Nat) × List Char) := do
  let (hour, text) ← bounded 0 23 2 text
  let ((), text) ← literal ':' (trimLeft text)
  let (minute, text) ← bounded 0 59 2 text
  let ((), text) ← literal ':' (trimLeft text)
  let (second, text) ← bounded 0 60 2 text
  let (nanos, text) ← readFraction text
  let clock := hour * 3600 + minute * 60 + min second 59
  .ok ((clock, if second = 60 then 1_000_000_000 + nanos else nanos), text)

/-- Two digits, as hours or minutes of an offset have them. -/
def twoDigits : List Char → Except Fault ((Nat × Nat) × List Char)
  | [] => .error .tooShort
  | [c] => .error (if c.toNat < 0x80 then .tooShort else .invalid)
  | c :: d :: rest =>
    match digitIn? 10 c, digitIn? 10 d with
    | some tens, some ones => .ok ((tens, ones), rest)
    | _, _ => .error .invalid

def offsetMinutes (text : List Char) : Except Fault (Nat × List Char) := do
  let ((tens, ones), rest) ← twoDigits text
  if tens ≤ 5 then .ok (tens * 10 + ones, rest) else .error .outOfRange

/-- The offset from UTC in seconds: `Z`, `UTC` or a sign with hours and minutes. -/
def readOffset (text : List Char) : Except Fault (Int × List Char) :=
  match text with
  | 'Z' :: rest | 'z' :: rest => .ok (0, rest)
  | u :: t :: c :: rest =>
    if [u, t, c].map Char.toUpper = ['U', 'T', 'C'] then .ok (0, rest) else signed text
  | _ => signed text
where
  /-- Hours and minutes after a sign, with colons or blanks between them if any. -/
  signed : List Char → Except Fault (Int × List Char)
    | [] => .error .tooShort
    | sign :: text =>
      if sign = '+' ∨ sign = '-' ∨ sign = '−' then do
        let ((tens, ones), text) ← twoDigits text
        let (minutes, text) ← offsetMinutes (text.dropWhile fun c => c == ':' || isBlank c)
        let seconds : Int := (tens * 10 + ones) * 3600 + minutes * 60
        .ok (if sign = '+' then seconds else -seconds, text)
      else .error .invalid

/-- The first and the last year of the calendar. -/
def minYear : Int := -262143

def maxYear : Int := 262142

def inCalendar (year : Int) : Bool :=
  minYear ≤ year && year ≤ maxYear

/-- Date, `T`, time of day and offset, with nothing after them. -/
def ofText (text : List Char) : Except Fault Timestamp := do
  let (date, text) ← readDate text
  let text ← match text with
    | 'T' :: rest | 't' :: rest | ' ' :: rest => .ok rest
    | [] => .error .tooShort
    | _ => .error .invalid
  let ((clock, nanos), text) ← readClock text
  let (offset, text) ← readOffset (trimLeft text)
  if !(trimLeft text).isEmpty then .error .tooLong
  else if !(inCalendar date.year && date.isValid) then .error .outOfRange
  else if !(-86400 < offset && offset < 86400) then .error .outOfRange
  else
    let time : Timestamp := ⟨date.toDays * 86400 + clock - offset, nanos⟩
    if inCalendar time.date.year then .ok time else .error .impossible

end LoginGate.Timestamp
