import LoginGate.Address
import LoginGate.InputError
import LoginGate.Text.Fields

/-! # Address ranges

A network is an address together with a prefix length: it covers the addresses of its family that
agree with it on that many leading bits. The remaining bits of its address, the host bits, are kept;
`Network.masked` clears them, which leaves the covered addresses alone (`covers_masked`).
-/

namespace LoginGate

/-- A range of addresses: all those that share the first `length` bits of `address`. -/
structure Network where
  address : Address
  length : Nat
  length_le : length ≤ address.family.width
  deriving DecidableEq, Repr

/-- Sets the last bits of an address to zero. -/
def Address.cleared (address : Address) (width : Nat) : Address where
  family := address.family
  bits := address.bits >>> width <<< width
  bits_lt := by
    refine Nat.lt_of_le_of_lt ?_ address.bits_lt
    rw [Nat.shiftLeft_eq, Nat.shiftRight_eq_div_pow]
    exact Nat.div_mul_le_self _ _

namespace Network

def family (network : Network) : Family :=
  network.address.family

/-- The number of bits in which covered addresses may differ. -/
def hostWidth (network : Network) : Nat :=
  network.family.width - network.length

def single (address : Address) : Network :=
  ⟨address, address.family.width, Nat.le_refl _⟩

/-- The leading bits agree, and so do the families. -/
def covers (network : Network) (address : Address) : Bool :=
  network.family == address.family &&
    network.address.bits >>> network.hostWidth == address.bits >>> network.hostWidth

/-- The same range, named by its first address. -/
def masked (network : Network) : Network :=
  ⟨network.address.cleared network.hostWidth, network.length, network.length_le⟩

/-- Clearing the host bits does not change which addresses are covered. -/
theorem covers_masked (network : Network) (address : Address) :
    network.masked.covers address = network.covers address := by
  simp [covers, masked, hostWidth, family, Address.cleared, Nat.shiftLeft_shiftRight]

theorem masked_masked (network : Network) : network.masked.masked = network.masked := by
  simp [masked, hostWidth, family, Address.cleared, Nat.shiftLeft_shiftRight]

theorem covers_single_iff (named other : Address) :
    (single named).covers other = true ↔ named = other := by
  obtain ⟨family, bits, bits_lt⟩ := named
  obtain ⟨otherFamily, otherBits, other_lt⟩ := other
  simp [covers, single, hostWidth, Network.family]

/-! ## Address ranges as text

A range is written as an address, a slash and a prefix length. When it is read, the prefix length
may be left out, which makes the range a single address; an IPv4 range may give a netmask in its
place. The host bits stay as they are written.
-/

open Text

/-- A prefix length: decimal digits, perhaps after a plus sign, up to the width of the family. -/
def length? (family : Family) (text : List Char) : Option Nat :=
  (numeral? 10 (if text.head? = some '+' then text.tail else text)).filter (· ≤ family.width)

/-- The prefix length of a netmask: ones first, then zeros. -/
def maskLength? (mask : Nat) : Option Nat :=
  (List.range 33).find? fun length => mask == 1 <<< 32 - 1 <<< (32 - length)

/-- The prefix length that stands after the slash. -/
def lengthOrMask? (family : Family) (text : List Char) : Option Nat :=
  match family, Address.dotted? text with
  | .v4, some mask => maskLength? mask
  | _, _ => length? family text

/-- The range of this address and prefix length, if the length fits the family. -/
def ofAddress? (address : Address) (length : Nat) : Option Network :=
  if fits : length ≤ address.family.width then
    some ⟨address, length, fits⟩
  else none

/-- The range a text denotes, host bits as written. -/
def ofText? (text : List Char) : Option Network :=
  match fields (· == '/') text with
  | [address] => (Address.ofText? address).map single
  | [address, length] => do
    let address ← Address.ofText? address
    let length ← lengthOrMask? address.family length
    ofAddress? address length
  | _ => none

def toText (network : Network) : List Char :=
  network.address.toText ++ '/' :: decimal network.length

instance : ToString Network where
  toString network := String.ofList network.toText

/-! ## Ranges named by callers

A caller may leave blanks around a range and name it by any of its addresses, but has to give the
prefix length. The gate works with the range as named by its first address.
-/

/-- The range a caller names: blanks dropped, a slash required, host bits cleared. -/
def parse (text : String) : Except InputError Network :=
  let trimmed := Text.trim text.toList
  if trimmed.contains '/' then
    match ofText? trimmed with
    | some network => .ok network.masked
    | none => .error (.malformedNetwork (String.ofList trimmed) .unreadable)
  else .error (.malformedNetwork (String.ofList trimmed) .missingLength)

/-- An accepted text has a slash and denotes a range, and the answer is that range, masked. -/
theorem parse_eq_ok_iff {text : String} {network : Network} :
    parse text = .ok network ↔ '/' ∈ Text.trim text.toList ∧
      ∃ spelled, ofText? (Text.trim text.toList) = some spelled ∧ network = spelled.masked := by
  rw [parse]
  by_cases slash : '/' ∈ Text.trim text.toList
  · simp only [List.contains_iff_mem, slash, if_true, true_and]
    split
    · next spelled denotes =>
      simp only [Except.ok.injEq, denotes, Option.some.injEq]
      exact ⟨fun same => ⟨spelled, rfl, same.symm⟩, fun ⟨_, same, masked⟩ => by rw [masked, same]⟩
    · next absent => simp [absent]
  · simp [slash]

end Network
end LoginGate
