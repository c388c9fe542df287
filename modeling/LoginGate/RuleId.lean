import LoginGate.Text.Fields
import LoginGate.Text.Numeral

/-! # Rule identifiers

A rule is identified by 128 bits, written as hexadecimal digits in five groups.
-/

namespace LoginGate

structure RuleId where
  bits : Nat
  bits_lt : bits < 1 <<< 128
  deriving DecidableEq, Repr

namespace RuleId

/-- The identifier made of the last 128 bits of a number. -/
def ofNat (n : Nat) : RuleId :=
  ⟨n % 1 <<< 128, Nat.mod_lt _ (by decide)⟩

/-- The identifier for 128 random bits: six of them are fixed to mark it as random. -/
def ofRandomBits (n : Nat) : RuleId :=
  let high := n >>> 80 % 1 <<< 48
  let middle := n >>> 64 % 1 <<< 12
  let low := n % 1 <<< 62
  ofNat (high <<< 80 + 4 <<< 76 + middle <<< 64 + 2 <<< 62 + low)

/-- The digits of a group of the given width. -/
def group (width bits : Nat) : List Char :=
  Text.padded width (Nat.toDigits 16 (bits % 1 <<< (4 * width)))

/-- Eight, four, four, four and twelve lower-case digits with hyphens between the groups. -/
def toText (id : RuleId) : List Char :=
  group 8 (id.bits >>> 96) ++ '-' :: group 4 (id.bits >>> 80) ++
    '-' :: group 4 (id.bits >>> 64) ++ '-' :: group 4 (id.bits >>> 48) ++
    '-' :: group 12 id.bits

instance : ToString RuleId where
  toString id := String.ofList id.toText

/-! ## Reading rule identifiers

An identifier is read from its 32 digits in either case, bare or in five groups with hyphens; the
grouped form may stand in braces or behind `urn:uuid:`, also in either case. `Fault` names what is
wrong with any other text: the first character that has no place in an identifier, or else the shape
of the groups.
-/

open Text

/-- What is wrong with a text that is not an identifier. -/
inductive Fault where
  /-- A character that is neither a digit nor a hyphen, and the number of bytes before it. -/
  | character (found : Char) (place : Nat)
  /-- The number of digits when there are no groups. -/
  | digitCount (found : Nat)
  /-- The number of groups. -/
  | groupCount (found : Nat)
  /-- The length of one of the groups. -/
  | groupLength (index found : Nat)
  deriving DecidableEq, Repr

def groupLengths : List Nat :=
  [8, 4, 4, 4, 12]

def Fault.message : Fault → String
  | .character found place => s!"invalid character: found `{found}` at {place}"
  | .digitCount found => s!"invalid length: found {found}"
  | .groupCount found => s!"invalid group count: expected 5, found {found}"
  | .groupLength index found =>
    let expected := groupLengths.getD index 0
    s!"invalid group length in group {index}: expected {expected}, found {found}"

/-- The number of bytes a text takes. -/
def byteLength (text : List Char) : Nat :=
  (String.ofList text).utf8ByteSize

/-- The first character with no place in an identifier, and the bytes before it. -/
def intruder? (before : Nat) : List Char → Option (Char × Nat)
  | [] => none
  | c :: rest =>
    if c = '-' || (digitValue? c).isSome then intruder? (before + 1) rest else some (c, before)

def unbraced? : List Char → Option (List Char)
  | '\x7b' :: rest => if rest.getLast? = some '\x7d' then some rest.dropLast else none
  | _ => none

/-- The marker of the form used in resource names. -/
def marker : List Char :=
  "urn:uuid:".toList

/-- The text after the marker, whose letters may be in either case. -/
def unmarked? (text : List Char) : Option (List Char) :=
  if marker.isPrefixOf (text.map Char.toLower) then some (text.drop marker.length) else none

def wrongGroup? : Nat → List Nat → List (List Char) → Option (Nat × Nat)
  | index, expected :: others, group :: rest =>
    if rest.isEmpty then none
    else if group.length = expected then wrongGroup? (index + 1) others rest
    else some (index, group.length)
  | _, _, _ => none

/-- What is wrong with a text that is known not to be an identifier. -/
def diagnose (text : List Char) : Fault :=
  let (body, offset, isBare) :=
    match unbraced? text, unmarked? text with
    | some inner, _ => (inner, 1, false)
    | none, some inner => (inner, marker.length, false)
    | none, none => (text, 0, true)
  match intruder? 0 body with
  | some (found, before) => .character found (before + offset)
  | none =>
    let groups := fields (· == '-') body
    if groups.length = 1 && isBare then .digitCount (byteLength text)
    else if groups.length ≠ 5 then .groupCount groups.length
    else
      match wrongGroup? 0 groupLengths groups with
      | some (index, length) => .groupLength index length
      | none => .groupLength 4 (byteLength text - 24)

/-- The identifier whose groups these are, if all have the right length and are digits. -/
def ofGroups? (groups : List (List Char)) : Option RuleId :=
  if groups.map List.length = groupLengths then (numeral? 16 groups.flatten).map ofNat else none

/-- An identifier in five groups, or what is wrong with the text. -/
def ofGrouped (text : List Char) : Except Fault RuleId :=
  match ofGroups? (fields (· == '-') text) with
  | some id => .ok id
  | none => .error (diagnose text)

/-- The identifier a text denotes, or what is wrong with it. -/
def ofText (text : List Char) : Except Fault RuleId :=
  match byteLength text, unbraced? text, unmarked? text with
  | 32, _, _ =>
    match numeral? 16 text with
    | some bits => .ok (ofNat bits)
    | none => .error (diagnose text)
  | 36, _, _ => ofGrouped text
  | 38, some inner, _ => ofGrouped inner
  | 45, _, some inner => ofGrouped inner
  | _, _, _ => .error (diagnose text)

end RuleId
end LoginGate
