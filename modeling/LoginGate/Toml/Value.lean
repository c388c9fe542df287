import LoginGate.Text.Numeral
import LoginGate.Timestamp

/-! # TOML values

A TOML document denotes a table. Settings hold no fractions and no dates, so of these a value only
says what it is.
-/

namespace LoginGate

/-- A value in a TOML document. -/
inductive Toml where
  | string (text : String)
  | integer (value : Int)
  /-- A number with a fraction or an exponent, infinity, or what is not a number. -/
  | float
  | bool (value : Bool)
  /-- A date, a time, or both. -/
  | moment
  | array (items : List Toml)
  | table (members : List (String × Toml))
  deriving Repr

/-! ## TOML numbers and dates

Numbers may have underscores between digits and, unless they are integers in base two, eight or
sixteen, no leading zeros. Integers have 64 bits. A fraction may not be too large for a
floating-point number, unless it is negative. Dates have to exist.
-/

namespace Toml

open Text

/-- Digits with underscores between them, the underscores dropped, and the text after them. -/
def digits (isDigit : Char → Bool) : List Char → List Char × List Char
  | [] => ([], [])
  | '_' :: c :: rest =>
    if isDigit c then
      let (more, rest) := digits isDigit rest
      (c :: more, rest)
    else ([], '_' :: c :: rest)
  | c :: rest =>
    if isDigit c then
      let (more, rest) := digits isDigit rest
      (c :: more, rest)
    else ([], c :: rest)

/-- At least one digit, not after an underscore. -/
def someDigits? (isDigit : Char → Bool) (text : List Char) : Option (List Char × List Char) :=
  if text.head?.any isDigit then some (digits isDigit text) else none

def sign : List Char → Option Bool × List Char
  | '-' :: rest => (some true, rest)
  | '+' :: rest => (some false, rest)
  | text => (none, text)

def isDigitIn (base : Nat) (c : Char) : Bool :=
  (digitIn? base c).isSome

def integer? (negative : Bool) (magnitude : Nat) : Option Toml :=
  let value : Int := if negative then -magnitude else magnitude
  if Int64.minValue.toInt ≤ value ∧ value ≤ Int64.maxValue.toInt then some (.integer value)
  else none

/-- An integer in another base than ten, after the mark of the base. -/
def inBase? (base : Nat) (text : List Char) : Option (Toml × List Char) := do
  let (digits, rest) ← someDigits? (isDigitIn base) text
  let value ← integer? false (← numeral? base digits)
  some (value, rest)

/-- Half a unit below the first power of two that is no floating-point number: from here on a number
is rounded to infinity. -/
def infinite : Nat := 1 <<< 1024 - 1 <<< 970

/-- The decimal `significand * 10 ^ k` is rounded to infinity. Only decimals of about 310 digits
before the point have to be computed to tell. -/
def overflows (significand : Nat) (k : Int) : Bool :=
  let length : Int := (decimal significand).length + k
  if significand = 0 || length < 300 then false
  else if 400 < length then true
  else if 0 ≤ k then infinite ≤ significand * Nat.pow 10 k.toNat
  else infinite * Nat.pow 10 (-k).toNat ≤ significand

def fraction? : List Char → Option (Option (List Char) × List Char)
  | '.' :: rest => (someDigits? isDecimal rest).map fun (digits, rest) => (some digits, rest)
  | text => some (none, text)

def exponent? : List Char → Option (Option Int × List Char)
  | c :: rest =>
    if c = 'e' || c = 'E' then do
      let (negative, rest) := sign rest
      let (digits, rest) ← someDigits? isDecimal rest
      let value ← numeral? 10 digits
      some (some (if negative = some true then -value else value), rest)
    else some (none, c :: rest)
  | [] => some (none, [])

def decimal? (negative : Bool) (text : List Char) : Option (Toml × List Char) := do
  let (whole, rest) ← someDigits? isDecimal text
  if whole.head? = some '0' && whole.length ≠ 1 then none
  let (fraction, rest) ← fraction? rest
  let (exponent, rest) ← exponent? rest
  if fraction.isNone && exponent.isNone then
    let value ← integer? negative (← numeral? 10 whole)
    some (value, rest)
  else
    let decimals := fraction.getD []
    let significand ← numeral? 10 (whole ++ decimals)
    if !negative && overflows significand (exponent.getD 0 - decimals.length) then none
    else some (.float, rest)

/-- A number of any kind. -/
def number? (text : List Char) : Option (Toml × List Char) :=
  match text with
  | '0' :: 'x' :: rest => inBase? 16 rest
  | '0' :: 'o' :: rest => inBase? 8 rest
  | '0' :: 'b' :: rest => inBase? 2 rest
  | _ =>
    let (negative, rest) := sign text
    match rest with
    | 'i' :: 'n' :: 'f' :: rest | 'n' :: 'a' :: 'n' :: rest => some (.float, rest)
    | rest => decimal? (negative = some true) rest

/-! ### Dates -/

def fixed? (width : Nat) (text : List Char) : Option (Nat × List Char) :=
  let digits := text.take width
  if digits.length = width && digits.all isDecimal then
    (numeral? 10 digits).map (·, text.drop width)
  else none

/-- A number of two digits up to a bound. -/
def pair? (most : Nat) (text : List Char) : Option (Nat × List Char) :=
  (fixed? 2 text).filter (·.1 ≤ most)

def after? (c : Char) : List Char → Option (List Char)
  | [] => none
  | d :: rest => if d = c then some rest else none

/-- The text after a date that exists. -/
def date? (text : List Char) : Option (List Char) := do
  let (year, rest) ← fixed? 4 text
  let (month, rest) ← fixed? 2 (← after? '-' rest)
  let (day, rest) ← fixed? 2 (← after? '-' rest)
  if Date.isValid ⟨year, month, day⟩ then some rest else none

def time? (text : List Char) : Option (List Char) := do
  let (_, rest) ← pair? 23 text
  let (_, rest) ← pair? 59 (← after? ':' rest)
  let (_, rest) ← pair? 60 (← after? ':' rest)
  match rest with
  | '.' :: c :: others => if isDecimal c then some (others.dropWhile isDecimal) else some rest
  | _ => some rest

def offset? (text : List Char) : Option (List Char) :=
  match text with
  | 'Z' :: rest | 'z' :: rest => some rest
  | '+' :: rest | '-' :: rest => do
    let (_, rest) ← pair? 23 rest
    let (_, rest) ← pair? 59 (← after? ':' rest)
    some rest
  | _ => some text

/-- A date, a time, or both. -/
def moment? (text : List Char) : Option (Toml × List Char) := do
  match date? text with
  | none => (time? text).map (.moment, ·)
  | some rest =>
    match rest with
    | 'T' :: clock | 't' :: clock | ' ' :: clock =>
      match time? clock with
      | some rest => (offset? rest).map (.moment, ·)
      | none => some (.moment, rest)
    | _ => some (.moment, rest)

end Toml
end LoginGate
