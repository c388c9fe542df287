import LoginGate.Proofs.Network.Coverage
import LoginGate.Proofs.Network.RoundTrip

/-! # Ranges as callers spell them

A caller spells a range as an address, a slash, and the number of leading bits or an IPv4 mask that
has ones in their place. The range may be spelled by any of its addresses and with any of these
sizes; what is read is one name for it, which depends on the covered addresses alone.
-/

namespace LoginGate.Network

open Text

/-! ## Masks -/

/-- A mask of 32 bits starts with as many ones as its length says. -/
private theorem testBit_mask {length : Nat} (bounded : length ≤ 32) (place : Nat) :
    (1 <<< 32 - 1 <<< (32 - length)).testBit place =
      decide (32 - length ≤ place ∧ place < 32) := by
  have positive : 0 < 2 ^ (32 - length) := Nat.two_pow_pos _
  have fits : 2 ^ (32 - length) ≤ 2 ^ 32 := Nat.pow_le_pow_right (by decide) (by omega)
  have lower : 1 <<< 32 - 1 <<< (32 - length) = 2 ^ 32 - ((2 ^ (32 - length) - 1) + 1) := by
    rw [Nat.one_shiftLeft, Nat.one_shiftLeft, Nat.sub_add_cancel positive]
  rw [lower, Nat.testBit_two_pow_sub_succ (by omega), Nat.testBit_two_pow_sub_one,
    Bool.eq_iff_iff]
  simp only [Bool.and_eq_true, Bool.not_eq_true', decide_eq_true_eq, decide_eq_false_iff_not]
  omega

/-- Numbers agree under a mask when they agree on the bits where it has ones. -/
private theorem and_mask_eq_iff {length : Nat} (bounded : length ≤ 32) (first second : Nat) :
    first &&& (1 <<< 32 - 1 <<< (32 - length)) = second &&& (1 <<< 32 - 1 <<< (32 - length)) ↔
      ∀ position < length,
        first.testBit (32 - 1 - position) = second.testBit (32 - 1 - position) := by
  constructor
  · intro same position inside
    have bit := congrArg (Nat.testBit · (31 - position)) same
    have one : 32 - length ≤ 31 - position ∧ 31 - position < 32 := by omega
    simpa only [Nat.testBit_and, testBit_mask bounded, one, and_self, decide_true, Bool.and_true]
      using bit
  · intro agree
    refine Nat.eq_of_testBit_eq fun place => ?_
    rw [Nat.testBit_and, Nat.testBit_and, testBit_mask bounded]
    by_cases one : 32 - length ≤ place ∧ place < 32
    · have same := agree (31 - place) (by omega)
      rw [show 31 - (31 - place) = place by omega] at same
      rw [same]
    · rw [decide_eq_false one, Bool.and_false, Bool.and_false]

/-- Addresses agree under a mask when they agree on as many leading bits as it has ones. -/
private theorem and_mask_iff_agree {length : Nat} (bounded : length ≤ 32) {named other : Address}
    (v4 : named.family = .v4) (same : named.family = other.family) :
    named.bits &&& (1 <<< 32 - 1 <<< (32 - length)) =
        other.bits &&& (1 <<< 32 - 1 <<< (32 - length)) ↔
      ∀ position < length, named.bit position = other.bit position := by
  simp only [Address.bit, ← same, v4]
  exact and_mask_eq_iff bounded _ _

private theorem eq_of_maskLength? {mask length : Nat} (read : maskLength? mask = some length) :
    length ≤ 32 ∧ mask = 1 <<< 32 - 1 <<< (32 - length) := by
  rw [maskLength?] at read
  have ones := List.find?_some read
  exact ⟨Nat.lt_succ_iff.mp (List.mem_range.mp (List.mem_of_find?_eq_some read)),
    beq_iff_eq.mp ones⟩

/-- A mask has dots, so it is no prefix length. -/
private theorem length?_of_dotted? {family : Family} {text : List Char} {mask : Nat}
    (dotted : Address.dotted? text = some mask) : length? family text = none := by
  have dot : '.' ∈ text := by
    by_contra plain
    rw [Address.dotted?_eq_none plain] at dotted
    cases dotted
  have unsigned : '.' ∈ if text.head? = some '+' then text.tail else text := by
    split
    · next plus =>
      obtain ⟨rest, rfl⟩ := List.head?_eq_some_iff.mp plus
      exact (List.mem_cons.mp dot).resolve_left (by decide)
    · exact dot
  rw [length?, numeral?_eq_none unsigned (by decide), Option.filter_none]

/-- A size is a prefix length or a mask. -/
private theorem size_cases {family : Family} {size : List Char} {length : Nat}
    (read : lengthOrMask? family size = some length) :
    length? family size = some length ∨
      family = .v4 ∧ ∃ mask, Address.dotted? size = some mask ∧ maskLength? mask = some length := by
  rw [lengthOrMask?.eq_def] at read
  split at read
  · next mask dotted => exact .inr ⟨rfl, mask, dotted, read⟩
  · exact .inl read

/-! ## What a text spells -/

/-- What stands after the slash takes two addresses of one family for addresses of the same range:
they agree on the given number of leading bits, or, if they are of IPv4, under the given mask. -/
def Joins (size : List Char) (named other : Address) : Prop :=
  (∃ length, length? named.family size = some length ∧
    ∀ position < length, named.bit position = other.bit position) ∨
  named.family = .v4 ∧ ∃ mask, Address.dotted? size = some mask ∧
    named.bits &&& mask = other.bits &&& mask

/-- A text spells a range that has the address: it gives an address, a slash, and a size that joins
the two. -/
def Spells (text : List Char) (address : Address) : Prop :=
  ∃ name size named, fields (· == '/') text = [name, size] ∧
    Address.ofText? name = some named ∧ named.family = address.family ∧ Joins size named address

/-- Sizes that are read as the same length join the same addresses. -/
theorem joins_iff {size : List Char} {length : Nat} {named other : Address}
    (sized : lengthOrMask? named.family size = some length) (same : named.family = other.family) :
    Joins size named other ↔ ∀ position < length, named.bit position = other.bit position := by
  rcases size_cases sized with counted | ⟨v4, mask, dotted, masked⟩
  · rw [Joins, counted]
    constructor
    · rintro (⟨_, ⟨⟩, agree⟩ | ⟨-, mask, dotted, -⟩)
      · exact agree
      · rw [length?_of_dotted? dotted] at counted
        cases counted
    · exact fun agree => .inl ⟨length, rfl, agree⟩
  · obtain ⟨bounded, rfl⟩ := eq_of_maskLength? masked
    rw [Joins, length?_of_dotted? dotted, dotted, ← and_mask_iff_agree bounded v4 same]
    constructor
    · rintro (⟨_, ⟨⟩, -⟩ | ⟨-, _, ⟨⟩, agree⟩)
      exact agree
    · exact fun agree => .inr ⟨v4, _, rfl, agree⟩

private theorem exists_fields_of_ofText? {text : List Char} {spelled : Network} (slash : '/' ∈ text)
    (denotes : ofText? text = some spelled) :
    ∃ name size, fields (· == '/') text = [name, size] ∧
      Address.ofText? name = some spelled.address ∧
      lengthOrMask? spelled.family size = some spelled.length := by
  have several : 1 < (fields (· == '/') text).length := one_lt_length_fields slash rfl
  rw [ofText?] at denotes
  split at denotes
  · next address alone =>
    rw [alone] at several
    exact absurd several (Nat.lt_irrefl 1)
  · next name size cut =>
    simp only [Option.bind_eq_bind, Option.bind_eq_some_iff] at denotes
    obtain ⟨address, named, length, sized, made⟩ := denotes
    rw [ofAddress?] at made
    split at made
    · obtain rfl := Option.some.inj made
      exact ⟨name, size, cut, named, sized⟩
    · cases made
  · cases denotes

/-- The addresses of a range are those for which its text spells it. -/
theorem names_iff_spells {text : List Char} {spelled : Network} (slash : '/' ∈ text)
    (denotes : ofText? text = some spelled) (address : Address) :
    spelled.Names address ↔ Spells text address := by
  obtain ⟨name, size, cut, read, sized⟩ := exists_fields_of_ofText? slash denotes
  constructor
  · rintro ⟨same, agree⟩
    exact ⟨name, size, spelled.address, cut, read, same, (joins_iff sized same).mpr agree⟩
  · rintro ⟨_, _, named, cut', read', same, joins⟩
    rw [cut] at cut'
    cases cut'
    obtain rfl := Option.some.inj (read.symm.trans read')
    exact ⟨same, (joins_iff sized same).mp joins⟩

/-! ## What is read -/

theorem bit_masked {network : Network} {position : Nat} (behind : network.length ≤ position)
    (inside : position < network.family.width) : network.masked.address.bit position = false := by
  have host : ¬ network.hostWidth ≤ network.family.width - 1 - position := by
    rw [hostWidth]
    omega
  change (network.address.bits >>> network.hostWidth <<< network.hostWidth).testBit
    (network.family.width - 1 - position) = false
  rw [Nat.testBit_shiftLeft, decide_eq_false host, Bool.false_and]

/-- A text without a slash is refused, since the size is missing. -/
theorem parse_of_no_slash {text : String} (plain : '/' ∉ text.toList) :
    parse text = .error (.malformedNetwork (String.ofList (trim text.toList)) .missingLength) := by
  have absent : (trim text.toList).contains '/' = false :=
    Bool.eq_false_iff.mpr fun found => plain (mem_of_mem_trim (List.contains_iff_mem.mp found))
  simp only [parse, absent, Bool.false_eq_true, if_false]

/-- What is read of a text: a range without host bits that has the addresses for which the text
spells it, and whose own text is read as the same range. -/
structure Reads (text : String) (network : Network) : Prop where
  cleared : ∀ position, network.length ≤ position → position < network.family.width →
    network.address.bit position = false
  spelled : ∀ address, network.covers address = true ↔ Spells (trim text.toList) address
  written : ∃ spelled, ofText? (trim text.toList) = some spelled ∧
    ∀ address, network.covers address = spelled.covers address
  stable : parse (toString network) = .ok network

theorem reads_of_parse {text : String} {network : Network} (read : parse text = .ok network) :
    Reads text network := by
  obtain ⟨slash, spelled, denotes, rfl⟩ := parse_eq_ok_iff.mp read
  refine ⟨fun _ behind inside => bit_masked behind inside, fun address => ?_,
    ⟨spelled, denotes, fun address => covers_masked spelled address⟩, ?_⟩
  · rw [covers_masked, covers_iff_names, names_iff_spells slash denotes]
  · rw [parse_toString, masked_masked]

/-- Two texts are read as the same range exactly when they spell ranges with the same addresses, so
what is read is one name of the range. It has no host bits, and exactly the addresses that the text
without its blanks says, by a number of leading bits or by a mask; and it is read from its own text.
What has no slash is not read. -/
theorem parse_canonical :
    (∀ {first second : String} {one other : Network}, parse first = .ok one →
      parse second = .ok other →
        (one = other ↔ ∀ address, one.covers address = other.covers address)) ∧
    (∀ {text : String} {network : Network}, parse text = .ok network → Reads text network) ∧
    ∀ {text : String}, '/' ∉ text.toList → parse text =
      .error (.malformedNetwork (String.ofList (trim text.toList)) .missingLength) := by
  refine ⟨fun {first second one other} read alsoRead => ?_, reads_of_parse, parse_of_no_slash⟩
  obtain ⟨-, spelled, -, rfl⟩ := parse_eq_ok_iff.mp read
  obtain ⟨-, alsoSpelled, -, rfl⟩ := parse_eq_ok_iff.mp alsoRead
  rw [masked_eq_iff]
  simp only [covers_masked]

/-- Blanks, host bits and a mask do not make another range, half as many addresses do, and an
address alone is none. -/
theorem parse_canonical_of_spellings :
    let whole : Network := ⟨⟨.v4, 0xC0A8_0100, by decide⟩, 24, by decide⟩
    let half : Network := ⟨⟨.v4, 0xC0A8_0100, by decide⟩, 25, by decide⟩
    parse " 192.168.1.77/24 " = .ok whole ∧ Reads " 192.168.1.77/24 " whole ∧
      parse "192.168.1.1/255.255.255.0" = .ok whole ∧ Reads "192.168.1.1/255.255.255.0" whole ∧
      parse "192.168.1.0/+025" = .ok half ∧
      (∃ address, whole.covers address ≠ half.covers address) ∧
      parse "192.168.1.0" = .error (.malformedNetwork "192.168.1.0" .missingLength) := by
  intro whole half
  have read : parse " 192.168.1.77/24 " = .ok whole := by decide +kernel
  have again : parse "192.168.1.1/255.255.255.0" = .ok whole := by decide +kernel
  have other : parse "192.168.1.0/+025" = .ok half := by decide +kernel
  have differ : ¬ ∀ address, whole.covers address = half.covers address := fun same =>
    absurd ((parse_canonical.1 again other).mpr same) (by decide)
  exact ⟨read, parse_canonical.2.1 read, again, parse_canonical.2.1 again, other,
    not_forall.mp differ, parse_canonical.2.2 (by decide +kernel)⟩

end LoginGate.Network
