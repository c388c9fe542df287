import LoginGate.Json.Numeral

/-! # JSON tokens

A text is cut into tokens from left to right. Where no token can be cut, a token `bad` ends the
list, so that whoever reads the tokens meets the fault where it stands and not before.

A string whose escapes name half of a surrogate pair is still a token, but has no text.
-/

namespace LoginGate.Json

open Text

/-- The smallest parts of a JSON text. -/
inductive Token where
  | beginObject
  | endObject
  | beginArray
  | endArray
  | colon
  | comma
  | null
  | bool (value : Bool)
  | number (numeral : Numeral)
  /-- A string, without text if it names half of a surrogate pair. -/
  | string (text : Option String)
  /-- What stands here is not JSON. -/
  | bad
  deriving DecidableEq, Repr

namespace Token

def isBlank (c : Char) : Bool :=
  c == ' ' || c == '\n' || c == '\t' || c == '\r'

/-! ## Strings -/

/-- The number of four hexadecimal digits at the front of a text. -/
def unit? (text : List Char) : Option Nat :=
  let digits := text.take 4
  if digits.length = 4 then numeral? 16 digits else none

def isHigh (unit : Nat) : Bool :=
  0xD800 ≤ unit && unit < 0xDC00

def isLow (unit : Nat) : Bool :=
  0xDC00 ≤ unit && unit < 0xE000

/-- The unit of an escape `\\u` at the front of a text. -/
def escapedUnit? : List Char → Option Nat
  | '\\' :: 'u' :: rest => unit? rest
  | _ => none

/-- The character for a unit and the text after it, and how many more characters it takes. -/
def unitChar (unit : Nat) (rest : List Char) : Option Char × Nat :=
  if isHigh unit then
    match (escapedUnit? rest).filter isLow with
    | some low => (some (Char.ofNat (0x10000 + (unit - 0xD800) * 0x400 + (low - 0xDC00))), 6)
    | none => (none, 0)
  else if isLow unit then (none, 0)
  else (some (Char.ofNat unit), 0)

/-- The character of an escape after its backslash, and how many characters that takes. -/
def escape? : List Char → Option (Option Char × Nat)
  | '"' :: _ => some (some '"', 1)
  | '\\' :: _ => some (some '\\', 1)
  | '/' :: _ => some (some '/', 1)
  | 'b' :: _ => some (some '\x08', 1)
  | 'f' :: _ => some (some '\x0c', 1)
  | 'n' :: _ => some (some '\n', 1)
  | 'r' :: _ => some (some '\r', 1)
  | 't' :: _ => some (some '\t', 1)
  | 'u' :: rest =>
    (unit? rest).map fun unit =>
      let (char, more) := unitChar unit (rest.drop 4)
      (char, 5 + more)
  | _ => none

/-- Reads a string after its opening quote. `skip` characters belong to an escape already read;
`chars` holds the text so far in reverse, unless there is none; `length` counts what was read. -/
def scanString (skip : Nat) (chars : Option (List Char)) (length : Nat) :
    List Char → Option (Option String × Nat)
  | [] => none
  | c :: rest =>
    match skip with
    | skip + 1 => scanString skip chars (length + 1) rest
    | 0 =>
      if c = '"' then some (chars.map fun chars => String.ofList chars.reverse, length + 1)
      else if c = '\\' then
        match escape? rest with
        | none => none
        | some (char, used) =>
          scanString used (chars.bind fun chars => char.map (· :: chars)) (length + 1) rest
      else if c.toNat < 0x20 then none
      else scanString 0 (chars.map (c :: ·)) (length + 1) rest

/-! ## Numbers -/

/-- The integer part: a single zero, or digits that do not begin with one. -/
def scanWhole (text : List Char) : Option (List Char) :=
  match text.takeWhile isDecimal with
  | [] => none
  | '0' :: _ :: _ => none
  | digits => some digits

/-- The digits after a point; a point needs at least one. -/
def scanFraction : List Char → Option (List Char × Nat)
  | '.' :: rest =>
    let digits := rest.takeWhile isDecimal
    if digits.isEmpty then none else some (digits, digits.length + 1)
  | _ => some ([], 0)

/-- The digits of an exponent, after its sign. -/
def scanPower (negative : Bool) (length : Nat) (rest : List Char) :
    Option (Option (Bool × List Char) × Nat) :=
  let digits := rest.takeWhile isDecimal
  if digits.isEmpty then none else some (some (negative, digits), length + digits.length)

def scanExponent : List Char → Option (Option (Bool × List Char) × Nat)
  | c :: rest =>
    if c = 'e' || c = 'E' then
      match rest with
      | '-' :: rest => scanPower true 2 rest
      | '+' :: rest => scanPower false 2 rest
      | rest => scanPower false 1 rest
    else some (none, 0)
  | [] => some (none, 0)

/-- A number without its sign, and its length. -/
def scanNumber (negative : Bool) (text : List Char) : Option (Numeral × Nat) := do
  let whole ← scanWhole text
  let text := text.drop whole.length
  let (fraction, pointed) ← scanFraction text
  let (exponent, raised) ← scanExponent (text.drop pointed)
  some (⟨negative, whole, fraction, exponent⟩, whole.length + pointed + raised)

/-! ## Tokens -/

/-- A fixed word, of which the first character has been read. -/
def scanWord (word : List Char) (token : Token) (rest : List Char) : Token × Nat :=
  if word.isPrefixOf rest then (token, word.length) else (bad, 0)

/-- The token at a character that is not blank, and how many characters it takes after it. -/
def scan (c : Char) (rest : List Char) : Token × Nat :=
  match c with
  | '\x7b' => (beginObject, 0)
  | '\x7d' => (endObject, 0)
  | '[' => (beginArray, 0)
  | ']' => (endArray, 0)
  | ':' => (colon, 0)
  | ',' => (comma, 0)
  | 'n' => scanWord "ull".toList null rest
  | 't' => scanWord "rue".toList (bool true) rest
  | 'f' => scanWord "alse".toList (bool false) rest
  | '"' =>
    match scanString 0 (some []) 0 rest with
    | some (text, length) => (string text, length)
    | none => (bad, 0)
  | '-' =>
    match scanNumber true rest with
    | some (numeral, length) => (number numeral, length)
    | none => (bad, 0)
  | c =>
    match scanNumber false (c :: rest) with
    | some (numeral, length) => (number numeral, length - 1)
    | none => (bad, 0)

/-- The tokens of a text, of which `skip` characters belong to a token already read. -/
def ofText (skip : Nat) : List Char → List Token
  | [] => []
  | c :: rest =>
    match skip with
    | skip + 1 => ofText skip rest
    | 0 =>
      if isBlank c then ofText 0 rest
      else
        match scan c rest with
        | (bad, _) => [bad]
        | (token, length) => token :: ofText length rest

end Token
end LoginGate.Json
