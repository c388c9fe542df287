import LoginGate.InputError
import LoginGate.Text.Fields
import LoginGate.Text.Numeral

/-! # Network addresses

An address is a number of 32 or 128 bits together with its family. The two families do not mix: an
address of one is never equal to an address of the other, except through `Address.canonical`, which
turns an IPv6 address that stands for an IPv4 one into the latter.
-/

namespace LoginGate

inductive Family where
  | v4
  | v6
  deriving DecidableEq, Repr

def Family.width : Family → Nat
  | .v4 => 32
  | .v6 => 128

/-- A network address, its bits read as a number with the first bit most significant. -/
structure Address where
  family : Family
  bits : Nat
  bits_lt : bits < 1 <<< family.width
  deriving DecidableEq, Repr

namespace Address

/-- The address with these bits, when they fit the family. -/
def ofBits? (family : Family) (bits : Nat) : Option Address :=
  if fits : bits < 1 <<< family.width then some ⟨family, bits, fits⟩ else none

/-- The four bytes of an IPv4 address, the first one most significant. -/
def octets (bits : Nat) : List Nat :=
  [bits >>> 24 % 256, bits >>> 16 % 256, bits >>> 8 % 256, bits % 256]

/-- The eight 16-bit groups of an IPv6 address, the first one most significant. -/
def groups (bits : Nat) : List Nat :=
  [bits >>> 112 % 65536, bits >>> 96 % 65536, bits >>> 80 % 65536, bits >>> 64 % 65536,
    bits >>> 48 % 65536, bits >>> 32 % 65536, bits >>> 16 % 65536, bits % 65536]

/-- An IPv6 address whose first 96 bits are those of `::ffff:0:0` stands for an IPv4 address. -/
def isMapped (address : Address) : Bool :=
  address.family == .v6 && address.bits >>> 32 == 0xFFFF

/-- The IPv4 address that a mapped address stands for; any other address is canonical already. -/
def canonical (address : Address) : Address :=
  if address.isMapped then
    ⟨.v4, address.bits % 1 <<< 32, Nat.mod_lt _ (by decide)⟩
  else address

/-- A canonical address is not mapped. -/
theorem isMapped_canonical (address : Address) : address.canonical.isMapped = false := by
  by_cases mapped : address.isMapped = true
  · rw [canonical, if_pos mapped]
    rfl
  · rw [canonical, if_neg mapped]
    exact Bool.eq_false_iff.mpr mapped

theorem canonical_canonical (address : Address) :
    address.canonical.canonical = address.canonical := by
  rw [canonical, if_neg (by simp [isMapped_canonical])]

/-! ## Addresses as text

IPv4 addresses are four decimal octets, written without leading zeros. IPv6 addresses are eight
hexadecimal groups of at most four digits, of which one run of zero groups may be left out as `::`
and the last two may be written as an IPv4 address. Nothing else is an address: no blanks, no zone,
no brackets.

An address is written in one way only: groups in lower case without leading zeros, the longest run
of two or more zero groups (the first of equals) left out, and the IPv4 tail used for mapped
addresses alone.
-/

open Text

def octet? (text : List Char) : Option Nat :=
  if text.length ≤ 3 && (text.length == 1 || text.head? != some '0') then
    (numeral? 10 text).filter (· < 256)
  else none

/-- The bits of a dotted IPv4 address. -/
def dotted? (text : List Char) : Option Nat :=
  match fields (· == '.') text with
  | [first, second, third, fourth] => do
    let first ← octet? first
    let second ← octet? second
    let third ← octet? third
    let fourth ← octet? fourth
    some (((first * 256 + second) * 256 + third) * 256 + fourth)
  | _ => none

def group? (text : List Char) : Option Nat :=
  if text.length ≤ 4 then numeral? 16 text else none

/-- Consecutive groups; where `tail` allows, the last field may be an IPv4 address of two groups. -/
def groupList? (tail : Bool) : List (List Char) → Option (List Nat)
  | [] => some []
  | [last] =>
    match if tail then dotted? last else none with
    | some bits => some [bits / 65536, bits % 65536]
    | none => (group? last).map ([·])
  | field :: rest => do
    let group ← group? field
    let others ← groupList? tail rest
    some (group :: others)

/-- The groups on one side of a `::`, possibly none. -/
def side? (tail : Bool) (text : List Char) : Option (List Nat) :=
  if text.isEmpty then some [] else groupList? tail (fields (· == ':') text)

/-- The text before and after the first `::`. -/
def cutGap : List Char → Option (List Char × List Char)
  | ':' :: ':' :: rest => some ([], rest)
  | c :: rest => (cutGap rest).map fun (before, after) => (c :: before, after)
  | [] => none

/-- All eight groups of an IPv6 address, a `::` standing for at least one zero group. -/
def allGroups? (text : List Char) : Option (List Nat) :=
  match cutGap text with
  | none => (groupList? true (fields (· == ':') text)).filter (·.length == 8)
  | some (before, after) => do
    let front ← side? false before
    let back ← side? true after
    if front.length + back.length ≤ 7 then
      some (front ++ List.replicate (8 - (front.length + back.length)) 0 ++ back)
    else none

/-- The address a text denotes, exactly as it is spelled. -/
def ofText? (text : List Char) : Option Address :=
  match dotted? text with
  | some bits => ofBits? .v4 bits
  | none => do
    let groups ← allGroups? text
    ofBits? .v6 (groups.foldl (fun bits group => bits * 65536 + group) 0)

def joined (separator : Char) : List (List Char) → List Char
  | [] => []
  | [last] => last
  | first :: rest => first ++ separator :: joined separator rest

def dotted (bits : Nat) : List Char :=
  joined '.' ((octets bits).map decimal)

/-- Groups in hexadecimal with colons between them. -/
def colons (groups : List Nat) : List Char :=
  joined ':' (groups.map (Nat.toDigits 16))

/-- The number of zero groups from a position on. -/
def zerosAt (groups : List Nat) (start : Nat) : Nat :=
  ((groups.drop start).takeWhile (· == 0)).length

/-- Start and length of the longest run of zero groups, the first of equals. -/
def longestZeros (groups : List Nat) : Nat × Nat :=
  (List.range groups.length).foldl
    (fun best start =>
      if best.2 < zerosAt groups start then (start, zerosAt groups start) else best)
    (0, 0)

/-- Groups with their longest run of at least two zeros left out. -/
def compressed (groups : List Nat) : List Char :=
  let (start, length) := longestZeros groups
  if 1 < length then
    colons (groups.take start) ++ [':', ':'] ++ colons (groups.drop (start + length))
  else colons groups

/-- The one spelling in which an address is written. -/
def toText (address : Address) : List Char :=
  match address.family with
  | .v4 => dotted address.bits
  | .v6 =>
    if address.isMapped then "::ffff:".toList ++ dotted (address.bits % 1 <<< 32)
    else compressed (groups address.bits)

instance : ToString Address where
  toString address := String.ofList address.toText

/-! ## Addresses named by callers

A caller may spell an address as it likes; the gate works with its canonical form.
-/

/-- The canonical form of the address a caller names. -/
def parse (text : String) : Except InputError Address :=
  match ofText? text.toList with
  | some address => .ok address.canonical
  | none => .error (.malformedAddress text)

/-- An accepted text denotes an address, and the answer is its canonical form. -/
theorem parse_eq_ok_iff {text : String} {address : Address} :
    parse text = .ok address ↔ ∃ spelled, ofText? text.toList = some spelled ∧
      address = spelled.canonical := by
  rw [parse]
  split
  · next spelled denotes =>
    simp only [Except.ok.injEq, denotes, Option.some.injEq]
    exact ⟨fun same => ⟨spelled, rfl, same.symm⟩, fun ⟨_, same, canonical⟩ => by
      rw [canonical, same]⟩
  · next absent => simp [absent]

end Address
end LoginGate
