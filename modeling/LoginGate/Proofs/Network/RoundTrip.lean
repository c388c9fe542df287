import LoginGate.Proofs.Address.RoundTrip
import LoginGate.Proofs.Text.Padded
import LoginGate.Rule

/-! # Ranges written and read

The text of a range denotes that range, host bits included, and a caller who names a range by its
text means it as named by its first address.
-/

namespace LoginGate.Network

open Text

/-- The text of a range consists of digits, dots, colons and a slash. -/
private theorem digit_of_mem_toText {network : Network} {c : Char}
    (member : c ∈ network.toText) :
    (digitValue? c).isSome = true ∨ c = '.' ∨ c = ':' ∨ c = '/' := by
  rw [toText, List.mem_append, List.mem_cons] at member
  rcases member with address | slash | length
  · rcases Address.digit_of_mem_toText address with digit | dot | colon
    · exact .inl digit
    · exact .inr (.inl dot)
    · exact .inr (.inr (.inl colon))
  · exact .inr (.inr (.inr slash))
  · exact .inl (isSome_digitValue?_of_mem_toDigits (by decide) (by decide) length)

private theorem isBlank_of_mem_toText {network : Network} {c : Char}
    (member : c ∈ network.toText) : isBlank c = false := by
  rcases digit_of_mem_toText member with digit | rfl | rfl | rfl
  · exact isBlank_of_isSome_digitValue? digit
  all_goals decide

private theorem fields_toText (network : Network) :
    fields (· == '/') network.toText = [network.address.toText, decimal network.length] := by
  have address : ∀ c ∈ network.address.toText, (c == '/') = false := by
    intro c member
    refine beq_false_of_ne ?_
    rintro rfl
    rcases Address.digit_of_mem_toText member with digit | dot | colon <;> contradiction
  have length : ∀ c ∈ decimal network.length, (c == '/') = false := by
    intro c member
    refine beq_false_of_ne ?_
    rintro rfl
    exact not_mem_toDigits (by decide) (by decide) (by decide) _ member
  rw [toText, fields_append_cons address (by decide), fields_eq_singleton length]

private theorem lengthOrMask?_decimal {family : Family} {n : Nat} (fits : n ≤ family.width) :
    lengthOrMask? family (decimal n) = some n := by
  have plain : (decimal n).head? ≠ some '+' := fun plus =>
    not_mem_toDigits (by decide) (by decide) (by decide) n (List.mem_of_head? plus)
  have length : length? family (decimal n) = some n := by
    have value : numeral? 10 (decimal n) = some n := numeral?_toDigits (by decide) (by decide) n
    rw [length?, if_neg plain, value, Option.filter_some, if_pos (decide_eq_true fits)]
  rw [lengthOrMask?.eq_def, Address.dotted?_decimal]
  cases family <;> exact length

theorem ofText?_toText (network : Network) : ofText? network.toText = some network := by
  have fits := network.length_le
  simp only [ofText?, fields_toText, Address.ofText?_toText, lengthOrMask?_decimal fits,
    Option.bind_eq_bind, Option.bind_some, ofAddress?]
  exact dif_pos fits

/-- A caller who spells a range as it is written means it without its host bits. -/
theorem parse_toString (network : Network) : parse (toString network) = .ok network.masked := by
  have text : (toString network).toList = network.toText := String.toList_ofList
  have trimmed : trim network.toText = network.toText :=
    trim_eq_self (fun c front => isBlank_of_mem_toText (List.mem_of_head? front))
      fun c back => isBlank_of_mem_toText (List.mem_of_getLast? back)
  rw [parse_eq_ok_iff, text, trimmed]
  refine ⟨?_, network, ofText?_toText network, rfl⟩
  rw [toText]
  exact List.mem_append_right _ List.mem_cons_self

end LoginGate.Network
