import LoginGate.Text.Fields
import LoginGate.Text.Numeral
import Mathlib.Algebra.Group.Nat.Defs

/-! # Padded numerals

A numeral that is padded to a width has exactly that width when the number fits, consists of digits
and denotes the same number. Numerals that stand one after the other denote the number made of
theirs.
-/

namespace LoginGate.Text

theorem isBlank_of_isSome_digitValue? {c : Char} (digit : (digitValue? c).isSome = true) :
    isBlank c = false := by
  obtain ⟨low, high⟩ := toNat_of_isSome_digitValue? digit
  simp only [isBlank, Bool.or_eq_false_iff, Bool.and_eq_false_iff, beq_eq_false_iff_ne,
    decide_eq_false_iff_not]
  omega

theorem length_padded {base width n : Nat} (large : 1 < base) (some : 0 < width)
    (fits : n < base ^ width) : (padded width (Nat.toDigits base n)).length = width := by
  have short := (Nat.length_toDigits_le_iff large some).mpr fits
  rw [padded, List.length_append, List.length_replicate]
  omega

/-- What reads as a number after nothing reads after other digits as well. -/
theorem foldlM_appendDigit_add {base start value : Nat} {text : List Char} (front : Nat)
    (reads : text.foldlM (appendDigit? base) start = some value) :
    text.foldlM (appendDigit? base) (front + start) =
      some (front * base ^ text.length + value) := by
  induction text generalizing start front with
  | nil => simpa using reads
  | cons c rest ih =>
    rw [List.foldlM_cons, Option.bind_eq_bind, Option.bind_eq_some_iff] at reads
    obtain ⟨next, appended, reads⟩ := reads
    obtain ⟨digit, found, rfl⟩ := Option.map_eq_some_iff.mp appended
    have here : appendDigit? base (front + start) c =
        some (front * base + (start * base + digit)) := by
      rw [appendDigit?, found, Option.map_some, Nat.add_mul, Nat.add_assoc]
    rw [List.foldlM_cons, here, Option.bind_eq_bind, Option.bind_some, ih (front * base) reads,
      List.length_cons, Nat.pow_succ, Nat.mul_assoc, Nat.mul_comm base]

/-- Zeros in front leave a number as it is. -/
private theorem foldlM_zeros {base : Nat} (positive : 0 < base) (count : Nat) :
    (List.replicate count '0').foldlM (appendDigit? base) 0 = some 0 := by
  have zero : appendDigit? base 0 '0' = some 0 := by
    have digit : digitIn? base '0' = some 0 := by
      have value : digitValue? '0' = some 0 := by decide
      rw [digitIn?, value, Option.filter_some, if_pos (decide_eq_true positive)]
    rw [appendDigit?, digit, Option.map_some, Nat.zero_mul]
  induction count with
  | zero => rfl
  | succ count ih =>
    rw [List.replicate_succ, List.foldlM_cons, zero, Option.bind_eq_bind, Option.bind_some, ih]

/-- A padded numeral continues a number by its digits. -/
theorem foldlM_padded {base width n : Nat} (large : 1 < base) (small : base ≤ 16)
    (some : 0 < width) (fits : n < base ^ width) (start : Nat) :
    (padded width (Nat.toDigits base n)).foldlM (appendDigit? base) start =
      Option.some (start * base ^ width + n) := by
  have whole : (padded width (Nat.toDigits base n)).foldlM (appendDigit? base) 0 =
      Option.some n := by
    rw [padded, List.foldlM_append, foldlM_zeros (Nat.zero_lt_of_lt large), Option.bind_eq_bind,
      Option.bind_some, foldlM_toDigits large small]
  have continued := foldlM_appendDigit_add start whole
  rwa [Nat.add_zero, length_padded large some fits] at continued

theorem numeral?_padded {base width n : Nat} (large : 1 < base) (small : base ≤ 16)
    (some : 0 < width) (fits : n < base ^ width) :
    numeral? base (padded width (Nat.toDigits base n)) = Option.some n := by
  have filled : (padded width (Nat.toDigits base n)).isEmpty = false := by
    rw [List.isEmpty_eq_false_iff]
    exact List.ne_nil_of_length_pos (by rwa [length_padded large some fits])
  rw [numeral?, filled, if_neg Bool.false_ne_true, foldlM_padded large small some fits,
    Nat.zero_mul, Nat.zero_add]

theorem isSome_digitValue?_of_mem_padded {base width n : Nat} (large : 1 < base)
    (small : base ≤ 16) {c : Char} (member : c ∈ padded width (Nat.toDigits base n)) :
    (digitValue? c).isSome = true := by
  rcases List.mem_append.mp member with zero | digit
  · rw [List.eq_of_mem_replicate zero]
    decide
  · exact isSome_digitValue?_of_mem_toDigits large small digit

theorem isDecimal_of_mem_decimal {n : Nat} {c : Char} (member : c ∈ decimal n) :
    isDecimal c = true :=
  Nat.isDigit_of_mem_toDigits (by decide) (by decide) member

theorem isDecimal_of_mem_padded {width n : Nat} {c : Char}
    (member : c ∈ padded width (decimal n)) : isDecimal c = true := by
  rcases List.mem_append.mp member with zero | digit
  · rw [List.eq_of_mem_replicate zero]
    decide
  · exact isDecimal_of_mem_decimal digit

theorem exists_padded_eq_cons (width n : Nat) :
    ∃ c rest, padded width (decimal n) = c :: rest ∧ isDecimal c = true ∧ isBlank c = false := by
  have filled : padded width (decimal n) ≠ [] :=
    List.append_ne_nil_of_right_ne_nil _ Nat.toDigits_ne_nil
  obtain ⟨c, rest, front⟩ := List.exists_cons_of_ne_nil filled
  have member : c ∈ padded width (decimal n) := front ▸ List.mem_cons_self
  have digit : (digitValue? c).isSome = true :=
    isSome_digitValue?_of_mem_padded (by decide) (by decide) member
  exact ⟨c, rest, front, isDecimal_of_mem_padded member, isBlank_of_isSome_digitValue? digit⟩

end LoginGate.Text
