import LoginGate.Text.Numeral

/-! # The fewest digits that read back

A finite binary floating-point number stands for every real number that rounds to it. It is written
with the fewest digits whose decimal lies among these, and with the nearest such decimal. Decimals
whose first digit has an exponent from `-5` to `15` are written with a point, all others in
scientific form with a signed exponent.
-/

namespace LoginGate.Number

structure Fraction where
  num : Nat
  den : Nat
  deriving Repr

/-- The real numbers that round to a floating-point number, and whether the ends are among them. -/
structure Interval where
  low : Fraction
  value : Fraction
  high : Fraction
  closed : Bool

/-- The fraction `m * 2 ^ q`. -/
def scaled (m : Nat) (q : Int) : Fraction :=
  if 0 ≤ q then ⟨m <<< q.toNat, 1⟩ else ⟨m, 1 <<< (-q).toNat⟩

/-- The real numbers that round to the finite positive number with these bits. -/
def interval (bits : Nat) : Interval :=
  let exponent := bits >>> 52 % 1 <<< 11
  let mantissa := bits % 1 <<< 52
  let m := if exponent = 0 then mantissa else mantissa + 1 <<< 52
  let q : Int := (max exponent 1 : Nat) - 1075
  let below := if mantissa = 0 && 1 < exponent then 1 else 2
  { low := scaled (4 * m - below) (q - 2)
    value := scaled (4 * m) (q - 2)
    high := scaled (4 * m + 2) (q - 2)
    closed := m % 2 == 0 }

/-- The value of `n * 10 ^ k`. -/
def decimalAt (n : Nat) (k : Int) : Fraction :=
  if 0 ≤ k then ⟨n * Nat.pow 10 k.toNat, 1⟩ else ⟨n, Nat.pow 10 (-k).toNat⟩

def Fraction.below (first second : Fraction) : Bool :=
  first.num * second.den < second.num * first.den

/-- The decimal rounds to the number. -/
def Interval.contains (range : Interval) (decimal : Fraction) : Bool :=
  if range.closed then !(decimal.below range.low) && !(range.high.below decimal)
  else range.low.below decimal && decimal.below range.high

/-- The exponent of the first digit. -/
def leadingExponent (value : Fraction) : Int :=
  if value.den ≤ value.num then
    ((Text.decimal (value.num / value.den)).length : Int) - 1
  else
    match (List.range 400).find? fun j => value.den ≤ value.num * Nat.pow 10 j with
    | some j => -(j : Int)
    | none => 0

/-- The nearest decimal with this many digits that rounds to the number. -/
def ofDigits? (range : Interval) (lead : Int) (count : Nat) : Option (Nat × Int) :=
  let k := lead - count + 1
  let unit := decimalAt 1 k
  let lower := range.value.num * unit.den / (range.value.den * unit.num)
  let upper := lower + 1
  let doubled := decimalAt (lower + upper) k
  let twice : Fraction := ⟨2 * range.value.num, range.value.den⟩
  let near := if twice.below doubled || (!(doubled.below twice) && lower % 2 == 0)
    then [lower, upper] else [upper, lower]
  (near.find? fun n => range.contains (decimalAt n k)).map (·, k)

/-- The digits of the shortest decimal, and the exponent of its last digit. -/
def shortest (bits : Nat) : Nat × Int :=
  let range := interval bits
  let lead := leadingExponent range.value
  ((List.range 17).findSome? fun count => ofDigits? range lead (count + 1)).getD (0, 0)

/-- The digits without trailing zeros, and the exponent of the last one kept. -/
def trimZeros (digits : List Char) (k : Int) : List Char × Int :=
  let kept := (digits.reverse.dropWhile (· == '0')).reverse
  (kept, k + (digits.length - kept.length : Nat))

def exponentText (n : Int) : List Char :=
  (if n < 0 then '-' else '+') :: Text.decimal n.natAbs

/-- A decimal with a point or in scientific form. -/
def layout (digits : List Char) (k : Int) : List Char :=
  let lead := (digits.length : Int) + k
  if 0 ≤ k ∧ lead ≤ 16 then digits ++ List.replicate k.toNat '0' ++ ['.', '0']
  else if 0 < lead ∧ lead ≤ 16 then
    digits.take lead.toNat ++ '.' :: digits.drop lead.toNat
  else if -5 < lead ∧ lead ≤ 0 then
    ['0', '.'] ++ List.replicate (-lead).toNat '0' ++ digits
  else
    let rest := digits.drop 1
    digits.take 1 ++ (if rest.isEmpty then [] else '.' :: rest) ++ 'e' :: exponentText (lead - 1)

def toText (value : Float) : String :=
  let bits := value.toBits.toNat
  let sign := if 1 <<< 63 ≤ bits then ['-'] else []
  let magnitude := bits % 1 <<< 63
  if magnitude = 0 then String.ofList (sign ++ ['0', '.', '0'])
  else
    let (n, k) := shortest magnitude
    let (digits, k) := trimZeros (Text.decimal n) k
    String.ofList (sign ++ layout digits k)

end LoginGate.Number
