import LoginGate.Json.Token
import LoginGate.Json.Value
import LoginGate.Proofs.Text.Padded

/-! # Tokens of what is written

A written string is one token, with the text it was written for, and so is a written number as long
as what follows cannot continue it. Each escape is read back as the character it stands for.
-/

namespace LoginGate

/-- No zero stands in front of other digits. -/
theorem Text.eq_nil_of_decimal {n : Nat} {rest : List Char} (zero : decimal n = '0' :: rest) :
    rest = [] := by
  induction n using Nat.strongRecOn generalizing rest with
  | ind n ih =>
    rw [decimal] at zero
    by_cases short : n < 10
    · rw [Nat.toDigits_of_lt_base short] at zero
      exact (List.cons.inj zero).2.symm
    · exfalso
      rw [Nat.toDigits_of_base_le (by decide) (Nat.le_of_not_lt short)] at zero
      cases front : Nat.toDigits 10 (n / 10) with
      | nil => exact Nat.toDigits_ne_nil front
      | cons digit digits =>
        rw [front] at zero
        obtain rfl : digit = '0' := (List.cons.inj zero).1
        obtain rfl := ih (n / 10) (by omega) front
        have value : numeral? 10 (Nat.toDigits 10 (n / 10)) = some (n / 10) :=
          numeral?_toDigits (by decide) (by decide) (n / 10)
        rw [front] at value
        have none : 0 = n / 10 := Option.some.inj value
        omega

namespace Json.Token

open Text

/-! ## One token -/

/-- The characters of a token are skipped once it is read. -/
theorem ofText_skip (skipped rest : List Char) :
    ofText skipped.length (skipped ++ rest) = ofText 0 rest := by
  induction skipped with
  | nil => rfl
  | cons c skipped ih => exact ih

/-- Where a token is scanned, it is read, and then what follows it. -/
theorem ofText_of_scan {c : Char} {text rest : List Char} {token : Token}
    (visible : isBlank c = false) (scans : scan c (text ++ rest) = (token, text.length))
    (sound : token ≠ bad) : ofText 0 (c :: (text ++ rest)) = token :: ofText 0 rest := by
  rw [ofText, visible, if_neg Bool.false_ne_true, scans, ← ofText_skip text rest]
  cases token with
  | bad => exact absurd rfl sound
  | _ => rfl

/-! ## Strings -/

private theorem scanString_skip (skipped rest : List Char) (chars : Option (List Char))
    (length : Nat) :
    scanString skipped.length chars length (skipped ++ rest) =
      scanString 0 chars (length + skipped.length) rest := by
  induction skipped generalizing length with
  | nil => rfl
  | cons c skipped ih =>
    rw [List.length_cons, ← Nat.add_assoc, Nat.add_right_comm, ← ih]
    rfl

/-- A control character has four digits, which name no half of a surrogate pair. -/
private theorem control_digits {n : Nat} (control : n < 0x20) :
    (padded 4 (Nat.toDigits 16 n)).length = 4 ∧
      numeral? 16 (padded 4 (Nat.toDigits 16 n)) = some n ∧ isHigh n = false ∧
      isLow n = false := by
  have fits : n < 16 ^ 4 := Nat.lt_trans control (by decide)
  have whole : isHigh n = false ∧ isLow n = false := by
    simp only [isHigh, isLow, Bool.and_eq_false_iff, decide_eq_false_iff_not]
    omega
  exact ⟨length_padded (by decide) (by decide) fits,
    numeral?_padded (by decide) (by decide) (by decide) fits, whole⟩

private theorem escape?_control {c : Char} (control : c.toNat < 0x20) (rest : List Char) :
    escape? ('u' :: (padded 4 (Nat.toDigits 16 c.toNat) ++ rest)) = some (some c, 5) := by
  obtain ⟨four, value, high, low⟩ := control_digits control
  have unit : unit? (padded 4 (Nat.toDigits 16 c.toNat) ++ rest) = some c.toNat := by
    rw [unit?, List.take_left' four, if_pos four, value]
  have char : unitChar c.toNat = fun _ => (some c, 0) := by
    funext rest
    rw [unitChar, high, low, Char.ofNat_toNat]
    rfl
  rw [escape?, unit, Option.map_some, char]

private theorem scanString_escaped (c : Char) (chars rest : List Char) (length : Nat) :
    scanString 0 (some chars) length (escaped c ++ rest) =
      scanString 0 (some (c :: chars)) (length + (escaped c).length) rest := by
  fun_cases escaped c with
  | case8 _ _ _ _ _ _ _ control =>
    -- The backslash is read, and the letter with its four digits is skipped.
    rw [List.cons_append, scanString, if_neg (by decide), if_pos rfl, List.cons_append,
      escape?_control control]
    have four := (control_digits control).1
    have skipped := scanString_skip ('u' :: padded 4 (Nat.toDigits 16 c.toNat)) rest
      (some (c :: chars)) (length + 1)
    rw [List.length_cons, four] at skipped
    rw [List.length_cons, List.length_cons, four, ← List.cons_append]
    exact skipped
  | case9 quote backslash _ _ _ _ _ shown =>
    rw [List.singleton_append, scanString, if_neg quote, if_neg backslash, if_neg shown]
    rfl
  | _ =>
    subst_vars
    rfl

/-- The characters of a written string are read up to its closing quote. -/
private theorem scanString_flatMap (text chars rest : List Char) (length : Nat) :
    scanString 0 (some chars) length (text.flatMap escaped ++ '"' :: rest) =
      some (some (String.ofList (chars.reverse ++ text)),
        length + (text.flatMap escaped).length + 1) := by
  induction text generalizing chars length with
  | nil =>
    rw [List.append_nil]
    rfl
  | cons c text ih =>
    rw [List.flatMap_cons, List.append_assoc, scanString_escaped, ih, List.reverse_cons,
      List.append_assoc, List.singleton_append, List.length_append, Nat.add_assoc length]

theorem ofText_written (text : String) (rest : List Char) :
    ofText 0 (written text ++ rest) = string (some text) :: ofText 0 rest := by
  have scans : scan '"' ((text.toList.flatMap escaped ++ ['"']) ++ rest) =
      (string (some text), (text.toList.flatMap escaped ++ ['"']).length) := by
    have whole := scanString_flatMap text.toList [] rest 0
    rw [scan, List.append_assoc, List.singleton_append, whole, List.reverse_nil, List.nil_append,
      String.ofList_toList, Nat.zero_add, List.length_append, List.length_singleton]
  exact ofText_of_scan rfl scans nofun

/-! ## Numbers -/

/-- A number ends where this text begins. -/
def endsNumber : List Char → Bool
  | [] => true
  | c :: _ => !(isDecimal c || c == '.' || c == 'e' || c == 'E')

private theorem scanWhole_decimal (n : Nat) {rest : List Char} (ends : endsNumber rest = true) :
    scanWhole (decimal n ++ rest) = some (decimal n) := by
  have stops : rest.takeWhile isDecimal = [] := by
    cases rest with
    | nil => rfl
    | cons c rest =>
      rw [List.takeWhile_cons_of_neg]
      intro digit
      simp [endsNumber, digit] at ends
  have digits : (decimal n ++ rest).takeWhile isDecimal = decimal n := by
    rw [List.takeWhile_append_of_pos fun c => isDecimal_of_mem_decimal, stops, List.append_nil]
  rw [scanWhole, digits]
  split
  · next none => exact absurd none Nat.toDigits_ne_nil
  · next zero => exact absurd (eq_nil_of_decimal zero) (List.cons_ne_nil _ _)
  · rfl

/-- Nothing but digits is read of a written number. -/
private theorem scanNumber_decimal (n : Nat) {rest : List Char} (ends : endsNumber rest = true) :
    scanNumber false (decimal n ++ rest) =
      some (⟨false, decimal n, [], none⟩, (decimal n).length) := by
  have fraction : scanFraction rest = some ([], 0) := by
    rw [scanFraction]
    rintro rest rfl
    cases ends
  have exponent : scanExponent rest = some (none, 0) := by
    cases rest with
    | nil => rfl
    | cons c rest =>
      rw [scanExponent.eq_def]
      refine if_neg fun either => ?_
      simp only [Bool.or_eq_true, decide_eq_true_eq] at either
      rcases either with rfl | rfl <;> cases ends
  simp only [scanNumber, scanWhole_decimal n ends, List.drop_left, fraction, List.drop_zero,
    exponent, Option.bind_eq_bind, Option.bind_some, Nat.add_zero]

private theorem scan_of_isDecimal {c : Char} (digit : isDecimal c = true) {rest : List Char}
    {numeral : Numeral} {length : Nat}
    (scans : scanNumber false (c :: rest) = some (numeral, length)) :
    isBlank c = false ∧ scan c rest = (number numeral, length - 1) := by
  constructor
  · rw [Bool.eq_false_iff, isBlank]
    intro blank
    simp only [Bool.or_eq_true, beq_iff_eq] at blank
    rcases blank with ((rfl | rfl) | rfl) | rfl <;> cases digit
  · -- All other beginnings of tokens are no digits.
    rw [scan.eq_def]
    split
    all_goals try cases digit
    rw [scans]

theorem ofText_decimal (n : Nat) {rest : List Char} (ends : endsNumber rest = true) :
    ofText 0 (decimal n ++ rest) = number ⟨false, decimal n, [], none⟩ :: ofText 0 rest := by
  have scans := scanNumber_decimal n ends
  cases digits : decimal n with
  | nil => exact absurd digits Nat.toDigits_ne_nil
  | cons c more =>
    rw [digits] at scans
    have digit : isDecimal c = true := isDecimal_of_mem_decimal (digits ▸ List.mem_cons_self)
    obtain ⟨visible, scans⟩ := scan_of_isDecimal digit scans
    exact ofText_of_scan visible scans nofun

end Json.Token
end LoginGate
