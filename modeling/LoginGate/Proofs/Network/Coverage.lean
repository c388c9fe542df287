import LoginGate.Network
import Mathlib.Data.Nat.Bitwise

/-! # Which addresses a range covers

A range covers the addresses of its family that agree with it on its leading bits, the number of
which is its length. Two ranges cover the same addresses exactly when they differ in host bits
alone.
-/

namespace LoginGate

namespace Address

/-- The bit at a position, counted from the most significant one. -/
def bit (address : Address) (position : Nat) : Bool :=
  address.bits.testBit (address.family.width - 1 - position)

/-- The address that differs in the bit at a position. -/
def flipped (address : Address) (position : Nat) : Address where
  family := address.family
  bits := address.bits ^^^ 1 <<< (address.family.width - 1 - position)
  bits_lt := by
    have fits := address.bits_lt
    have positive : 0 < address.family.width := by cases address.family <;> decide
    rw [Nat.one_shiftLeft] at fits
    rw [Nat.one_shiftLeft, Nat.one_shiftLeft]
    exact Nat.xor_lt_two_pow fits (Nat.pow_lt_pow_right (by decide) (by omega))

theorem bit_flipped (address : Address) {position other : Nat}
    (inside : position < address.family.width) (otherInside : other < address.family.width) :
    (address.flipped position).bit other = (address.bit other ^^ decide (position = other)) := by
  have places : address.family.width - 1 - position = address.family.width - 1 - other ↔
      position = other := by omega
  simp only [bit, flipped, Nat.testBit_xor, Nat.one_shiftLeft, Nat.testBit_two_pow, places]

end Address

namespace Network

/-- The address is of the family of the range and agrees with it on its leading bits. -/
def Names (network : Network) (address : Address) : Prop :=
  network.family = address.family ∧
    ∀ position < network.length, network.address.bit position = address.bit position

/-- Numbers that fit agree above the host bits when they agree on all the bits before these. -/
private theorem shiftRight_eq_iff {width length first second : Nat} (bounded : length ≤ width)
    (firstFits : first < 1 <<< width) (secondFits : second < 1 <<< width) :
    first >>> (width - length) = second >>> (width - length) ↔
      ∀ position < length,
        first.testBit (width - 1 - position) = second.testBit (width - 1 - position) := by
  rw [Nat.one_shiftLeft] at firstFits secondFits
  constructor
  · intro same position inside
    have place : width - 1 - position = width - length + (length - 1 - position) := by omega
    rw [place, ← Nat.testBit_shiftRight, ← Nat.testBit_shiftRight, same]
  · intro agree
    refine Nat.eq_of_testBit_eq fun place => ?_
    rw [Nat.testBit_shiftRight, Nat.testBit_shiftRight]
    by_cases inside : place < length
    · have same := agree (length - 1 - place) (by omega)
      rwa [show width - 1 - (length - 1 - place) = width - length + place by omega] at same
    · have beyond : 2 ^ width ≤ 2 ^ (width - length + place) :=
        Nat.pow_le_pow_right (by decide) (by omega)
      rw [Nat.testBit_lt_two_pow (Nat.lt_of_lt_of_le firstFits beyond),
        Nat.testBit_lt_two_pow (Nat.lt_of_lt_of_le secondFits beyond)]

theorem covers_iff_names (network : Network) (address : Address) :
    network.covers address = true ↔ network.Names address := by
  rw [covers, Bool.and_eq_true, beq_iff_eq, beq_iff_eq, Names]
  refine and_congr_right fun same => ?_
  have fits := address.bits_lt
  rw [← same] at fits
  simp only [Address.bit, ← same]
  exact shiftRight_eq_iff network.length_le network.address.bits_lt fits

/-- A range covers the address that it is written with. -/
theorem names_address (network : Network) : network.Names network.address :=
  ⟨rfl, fun _ _ => rfl⟩

/-- A bit behind the leading ones does not matter. -/
private theorem names_flipped {network : Network} {position : Nat}
    (behind : network.length ≤ position) (inside : position < network.family.width) :
    network.Names (network.address.flipped position) := by
  refine ⟨rfl, fun other leading => ?_⟩
  have later : position ≠ other := by omega
  have otherInside := Nat.lt_trans leading (Nat.lt_of_le_of_lt behind inside)
  rw [network.address.bit_flipped inside otherInside, decide_eq_false later, Bool.xor_false]

/-- A range that covers all that another one covers is no longer than that. -/
private theorem length_le_of_names {first second : Network}
    (wider : ∀ address, first.Names address → second.Names address) :
    second.length ≤ first.length := by
  -- Otherwise the last leading bit of the second can be flipped within the first.
  by_contra longer
  have family : second.family = first.family := (wider _ first.names_address).1
  have fits := second.length_le
  change second.length ≤ second.family.width at fits
  rw [family] at fits
  have inside : second.length - 1 < first.family.width := by omega
  have behind : first.length ≤ second.length - 1 := by omega
  have last : second.length - 1 < second.length := by omega
  have plain := (wider _ first.names_address).2 _ last
  have flipped := (wider _ (names_flipped behind inside)).2 _ last
  rw [first.address.bit_flipped inside inside, plain] at flipped
  simp at flipped

/-- Two ranges cover the same addresses exactly when they are the same up to host bits. -/
theorem masked_eq_iff (first second : Network) :
    first.masked = second.masked ↔ ∀ address, first.covers address = second.covers address := by
  constructor
  · intro same address
    rw [← first.covers_masked, same, second.covers_masked]
  · intro same
    have names (address : Address) : first.Names address ↔ second.Names address := by
      rw [← covers_iff_names, ← covers_iff_names, same]
    have lengths : first.length = second.length :=
      Nat.le_antisymm (length_le_of_names fun address => (names address).mpr)
        (length_le_of_names fun address => (names address).mp)
    have covered : second.covers first.address = true :=
      (covers_iff_names _ _).mpr ((names _).mp first.names_address)
    rw [covers, Bool.and_eq_true, beq_iff_eq, beq_iff_eq] at covered
    obtain ⟨⟨family, bits, fits⟩, length, bounded⟩ := first
    obtain ⟨⟨otherFamily, otherBits, otherFits⟩, otherLength, otherBounded⟩ := second
    obtain rfl : length = otherLength := lengths
    obtain rfl : otherFamily = family := covered.1
    simp only [masked, Address.cleared, hostWidth, Network.family, mk.injEq, Address.mk.injEq,
      true_and, and_true]
    exact congrArg (· <<< _) covered.2.symm

/-- Ranges that are the same up to host bits are the same if they are named by the same address. -/
theorem eq_of_masked {first second : Network} (masked : first.masked = second.masked)
    (named : first.address = second.address) : first = second := by
  have lengths : first.length = second.length := by
    change first.masked.length = second.masked.length
    rw [masked]
  obtain ⟨address, length, bounded⟩ := first
  obtain ⟨otherAddress, otherLength, otherBounded⟩ := second
  obtain rfl : address = otherAddress := named
  obtain rfl : length = otherLength := lengths
  rfl

end Network
end LoginGate
