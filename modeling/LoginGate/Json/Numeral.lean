import LoginGate.Number.Shortest
import LoginGate.Text.Numeral

/-! # JSON numbers

A number is an integer in 64 bits whenever it is written as one and fits; otherwise it is a
floating-point number. The latter is computed from the first digits that fit 64 bits, which is
scaled by a power of ten in at most a few roundings; a number too large for that has no value.
-/

namespace LoginGate.Json

open Text

structure Numeral where
  negative : Bool
  whole : List Char
  /-- The digits after the point, none if there is no point. -/
  fraction : List Char := []
  /-- Sign and digits of the exponent. -/
  exponent : Option (Bool × List Char) := none
  deriving DecidableEq, Repr

inductive Number where
  | nat (value : Nat)
  /-- The negation of a positive number. -/
  | negative (value : Nat)
  | float (value : Float)

namespace Numeral

/-- The digits that fit 64 bits, as a number, and how many digits are left out. -/
def leading (start : Nat) : List Char → Nat × Nat
  | [] => (start, 0)
  | c :: rest =>
    match appendDigit? 10 start c with
    | some value => if value < UInt64.size then leading value rest else (start, rest.length + 1)
    | none => (start, rest.length + 1)

/-- The largest exponent that is told apart. -/
def maxExponent : Nat := 2_147_483_647

/-- The significant digits as a number, and the power of ten they are scaled by. -/
def parts (numeral : Numeral) : Nat × Int :=
  let (whole, omitted) := leading 0 numeral.whole
  let (significand, ignored) := leading whole numeral.fraction
  (significand, (omitted : Int) - (numeral.fraction.length - ignored : Nat))

/-- The exponent that is written, with its sign, unless it is too large to matter. -/
def writtenExponent (numeral : Numeral) : Option Int :=
  match numeral.exponent with
  | none => some 0
  | some (negative, digits) =>
    ((numeral? 10 digits).filter (· ≤ maxExponent)).map fun value =>
      if negative then -(value : Int) else value

def tenTo (k : Nat) : Float :=
  Float.ofScientific 1 false k

/-- The largest power of ten that is used at once. -/
def maxPower : Nat := 308

/-- Divides by a power of ten, taking large powers in pieces. -/
def shrink (value : Float) (k : Nat) : Float :=
  if k ≤ maxPower then value / tenTo k
  else if value == 0 then value
  else shrink (value / tenTo maxPower) (k - maxPower)
termination_by k
decreasing_by
  have : maxPower = 308 := rfl
  omega

/-- A number scaled by a power of ten, unless it becomes too large. -/
def scale? (significand : Nat) (k : Int) : Option Float :=
  let value := (UInt64.ofNat significand).toFloat
  if k < 0 then some (shrink value (-k).toNat)
  else if k.toNat ≤ maxPower then
    let product := value * tenTo k.toNat
    if product.isInf then none else some product
  else if significand = 0 then some value
  else none

/-- The number as a floating-point number, unless it is too large. -/
def float? (numeral : Numeral) : Option Float :=
  let (significand, k) := numeral.parts
  let magnitude :=
    match numeral.writtenExponent with
    | some exponent => scale? significand (k + exponent)
    | none =>
      match numeral.exponent with
      | some (false, _) => if significand = 0 then some 0 else none
      | _ => some 0
  magnitude.map fun value => if numeral.negative then -value else value

/-- The number is written as an integer. -/
def isInteger (numeral : Numeral) : Bool :=
  numeral.fraction.isEmpty && numeral.exponent.isNone

/-- The value of a numeral; zero with a sign is a floating-point number. -/
def value? (numeral : Numeral) : Option Number :=
  match (numeral? 10 numeral.whole).filter fun _ => numeral.isInteger with
  | some value =>
    if !numeral.negative && value < UInt64.size then some (.nat value)
    else if numeral.negative && 0 < value && value ≤ 1 <<< 63 then some (.negative value)
    else numeral.float?.map .float
  | none => numeral.float?.map .float

end Numeral
end LoginGate.Json
