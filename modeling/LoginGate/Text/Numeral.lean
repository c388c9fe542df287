/-! # Numerals

Reading a whole text as a numeral in some base up to sixteen. `numeral?_toDigits` says that the
numeral written for a number reads back as that number.
-/

namespace LoginGate.Text

def digitValue? (c : Char) : Option Nat :=
  if '0' ≤ c ∧ c ≤ '9' then some (c.toNat - '0'.toNat)
  else if 'a' ≤ c ∧ c ≤ 'f' then some (c.toNat - 'a'.toNat + 10)
  else if 'A' ≤ c ∧ c ≤ 'F' then some (c.toNat - 'A'.toNat + 10)
  else none

def digitIn? (base : Nat) (c : Char) : Option Nat :=
  (digitValue? c).filter (· < base)

/-- Appends one more digit to the numeral read so far. -/
def appendDigit? (base value : Nat) (c : Char) : Option Nat :=
  (digitIn? base c).map fun digit => value * base + digit

/-- The number a text denotes when all of it, and at least one character, is digits. -/
def numeral? (base : Nat) (text : List Char) : Option Nat :=
  if text.isEmpty then none else text.foldlM (appendDigit? base) 0

def isDecimal (c : Char) : Bool :=
  '0' ≤ c && c ≤ '9'

def decimal (n : Nat) : List Char :=
  Nat.toDigits 10 n

/-- The numeral padded with zeros on the left to at least the given width. -/
def padded (width : Nat) (numeral : List Char) : List Char :=
  List.replicate (width - numeral.length) '0' ++ numeral

theorem digitValue?_digitChar {digit : Nat} (small : digit < 16) :
    digitValue? digit.digitChar = some digit := by
  have all : ∀ d : Fin 16, digitValue? (Nat.digitChar d) = some d.val := by decide
  exact all ⟨digit, small⟩

theorem digitIn?_digitChar {base digit : Nat} (small : base ≤ 16) (valid : digit < base) :
    digitIn? base digit.digitChar = some digit := by
  rw [digitIn?, digitValue?_digitChar (by omega)]
  simp [Option.filter, valid]

/-- Reading digit by digit undoes writing. -/
theorem foldlM_toDigits {base : Nat} (large : 1 < base) (small : base ≤ 16) (n : Nat) :
    (Nat.toDigits base n).foldlM (appendDigit? base) 0 = some n := by
  induction n using Nat.strongRecOn with
  | ind n ih =>
    by_cases short : n < base
    · rw [Nat.toDigits_of_lt_base short]
      simp [appendDigit?, digitIn?_digitChar small short]
    · have shrinks : n / base < n := Nat.div_lt_self (by omega) large
      have valid : n % base < base := Nat.mod_lt _ (by omega)
      rw [Nat.toDigits_of_base_le large (by omega), List.foldlM_append, ih _ shrinks]
      simp [appendDigit?, digitIn?_digitChar small valid, Nat.mul_comm, Nat.div_add_mod]

/-- The numeral of a number denotes it. -/
theorem numeral?_toDigits {base : Nat} (large : 1 < base) (small : base ≤ 16) (n : Nat) :
    numeral? base (Nat.toDigits base n) = some n := by
  rw [numeral?, if_neg (by simp [Nat.toDigits_ne_nil]), foldlM_toDigits large small]

theorem isSome_digitIn?_of_foldlM {base start value : Nat} {text : List Char}
    (reads : text.foldlM (appendDigit? base) start = some value) :
    ∀ c ∈ text, (digitIn? base c).isSome := by
  induction text generalizing start with
  | nil => intro c member; cases member
  | cons first rest ih =>
    rw [List.foldlM_cons, Option.bind_eq_bind, Option.bind_eq_some_iff] at reads
    obtain ⟨next, appended, reads⟩ := reads
    obtain ⟨digit, found, -⟩ := Option.map_eq_some_iff.mp appended
    intro c member
    rcases List.mem_cons.mp member with same | later
    · rw [same, found]
      rfl
    · exact ih reads c later

theorem numeral?_eq_none {base : Nat} {text : List Char} {c : Char} (member : c ∈ text)
    (other : digitIn? base c = none) : numeral? base text = none := by
  rw [numeral?]
  split
  · rfl
  · cases reads : text.foldlM (appendDigit? base) 0 with
    | none => rfl
    | some value =>
      have digit := isSome_digitIn?_of_foldlM reads c member
      rw [other] at digit
      cases digit

theorem not_mem_toDigits {base : Nat} (large : 1 < base) (small : base ≤ 16) {c : Char}
    (other : digitIn? base c = none) (n : Nat) : c ∉ Nat.toDigits base n := by
  intro member
  have digit := isSome_digitIn?_of_foldlM (foldlM_toDigits large small n) c member
  rw [other] at digit
  cases digit

theorem isSome_digitValue?_of_mem_toDigits {base n : Nat} (large : 1 < base) (small : base ≤ 16)
    {c : Char} (member : c ∈ Nat.toDigits base n) : (digitValue? c).isSome = true := by
  have digit := isSome_digitIn?_of_foldlM (foldlM_toDigits large small n) c member
  rw [digitIn?] at digit
  cases value : digitValue? c with
  | none =>
    rw [value] at digit
    cases digit
  | some value => rfl

/-- Digits are characters of ASCII that show. -/
theorem toNat_of_isSome_digitValue? {c : Char} (digit : (digitValue? c).isSome = true) :
    0x30 ≤ c.toNat ∧ c.toNat ≤ 0x66 := by
  have within {low high : Char} (bounds : low ≤ c ∧ c ≤ high) :
      low.toNat ≤ c.toNat ∧ c.toNat ≤ high.toNat :=
    bounds.imp UInt32.le_iff_toNat_le.mp UInt32.le_iff_toNat_le.mp
  rw [digitValue?] at digit
  split at digit
  · next bounds => exact (within bounds).imp id (Nat.le_trans · (by decide))
  · split at digit
    · next bounds => exact (within bounds).imp (Nat.le_trans (by decide)) id
    · split at digit
      · next bounds =>
        exact (within bounds).imp (Nat.le_trans (by decide)) (Nat.le_trans · (by decide))
      · cases digit

end LoginGate.Text
