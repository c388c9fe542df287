import LoginGate.Proofs.Text.Padded
import LoginGate.RuleId

/-! # Identifiers written and read

The text of an identifier denotes it. A text of 36 bytes is read as five groups of digits with
hyphens between them, and together the digits of the groups make up the bits.
-/

namespace LoginGate.RuleId

open Text

theorem byteLength_of_ascii {text : List Char} (ascii : ∀ c ∈ text, c.toNat ≤ 0x7f) :
    byteLength text = text.length := by
  induction text with
  | nil => rfl
  | cons c rest ih =>
    obtain ⟨here, later⟩ := List.forall_mem_cons.mp ascii
    have one : c.utf8Size = 1 := Char.utf8Size_eq_one_iff.mpr (UInt32.le_iff_toNat_le.mpr here)
    rw [byteLength, String.ofList_cons, String.utf8ByteSize_append, String.utf8ByteSize_singleton,
      one, List.length_cons, Nat.add_comm, ← ih later]
    rfl

/-! ## Groups -/

private theorem digits_lt (width bits : Nat) : bits % 1 <<< (4 * width) < 16 ^ width := by
  have same : 1 <<< (4 * width) = 16 ^ width := by
    rw [Nat.one_shiftLeft, Nat.pow_mul]
  rw [same]
  exact Nat.mod_lt _ (Nat.pow_pos (by decide))

private theorem length_group {width : Nat} (some : 0 < width) (bits : Nat) :
    (group width bits).length = width :=
  length_padded (by decide) some (digits_lt width bits)

/-- The digits of a group continue a number. -/
private theorem foldlM_group {width : Nat} (some : 0 < width) (bits start : Nat) :
    (group width bits).foldlM (appendDigit? 16) start =
      Option.some (start * 16 ^ width + bits % 1 <<< (4 * width)) :=
  foldlM_padded (by decide) (by decide) some (digits_lt width bits) start

private theorem digit_of_mem_group {width bits : Nat} {c : Char}
    (member : c ∈ group width bits) : (digitValue? c).isSome = true :=
  isSome_digitValue?_of_mem_padded (by decide) (by decide) member

private theorem hyphen_of_mem_group (width bits : Nat) :
    ∀ c ∈ group width bits, (c == '-') = false := by
  intro c member
  refine beq_false_of_ne ?_
  rintro rfl
  exact absurd (digit_of_mem_group member) (by decide)

/-- The five groups of an identifier. -/
def groups (id : RuleId) : List (List Char) :=
  [group 8 (id.bits >>> 96), group 4 (id.bits >>> 80), group 4 (id.bits >>> 64),
    group 4 (id.bits >>> 48), group 12 id.bits]

private theorem fields_toText (id : RuleId) : fields (· == '-') id.toText = id.groups := by
  simp only [toText, List.append_assoc, List.cons_append]
  rw [fields_append_cons (hyphen_of_mem_group _ _) rfl,
    fields_append_cons (hyphen_of_mem_group _ _) rfl,
    fields_append_cons (hyphen_of_mem_group _ _) rfl,
    fields_append_cons (hyphen_of_mem_group _ _) rfl,
    fields_eq_singleton (hyphen_of_mem_group _ _), groups]

private theorem lengths_groups (id : RuleId) : id.groups.map List.length = groupLengths := by
  simp (disch := decide) only [groups, List.map_cons, List.map_nil, length_group, groupLengths]

private theorem numeral?_groups (id : RuleId) : numeral? 16 id.groups.flatten = some id.bits := by
  have fits := id.bits_lt
  have whole : ((((0 * 16 ^ 8 + id.bits >>> 96 % 1 <<< (4 * 8)) * 16 ^ 4 +
      id.bits >>> 80 % 1 <<< (4 * 4)) * 16 ^ 4 + id.bits >>> 64 % 1 <<< (4 * 4)) * 16 ^ 4 +
      id.bits >>> 48 % 1 <<< (4 * 4)) * 16 ^ 12 + id.bits % 1 <<< (4 * 12) = id.bits := by
    simp only [Nat.shiftRight_eq_div_pow, Nat.shiftLeft_eq] at fits ⊢
    omega
  have digits : id.groups.flatten.length = 32 := by
    rw [List.length_flatten, lengths_groups]
    rfl
  have filled : id.groups.flatten.isEmpty = false :=
    List.isEmpty_eq_false_iff.mpr (List.ne_nil_of_length_eq_add_one digits)
  rw [numeral?, filled, if_neg Bool.false_ne_true]
  simp (disch := decide) only [groups, List.flatten_cons, List.flatten_nil, List.foldlM_append,
    foldlM_group, Option.bind_eq_bind, Option.bind_some, whole]
  rfl

/-! ## Whole identifiers -/

private theorem byteLength_toText (id : RuleId) : byteLength id.toText = 36 := by
  have ascii : ∀ c ∈ id.toText, c.toNat ≤ 0x7f := by
    have digits (width bits : Nat) : ∀ c ∈ group width bits, c.toNat ≤ 0x7f := by
      intro c member
      have shown := (toNat_of_isSome_digitValue? (digit_of_mem_group member)).2
      omega
    simp only [toText, List.append_assoc, List.cons_append, List.forall_mem_append,
      List.forall_mem_cons]
    have hyphen : '-'.toNat ≤ 0x7f := by decide
    exact ⟨digits _ _, hyphen, digits _ _, hyphen, digits _ _, hyphen, digits _ _, hyphen,
      digits _ _⟩
  rw [byteLength_of_ascii ascii, toText]
  simp (disch := decide) only [List.length_append, List.length_cons, length_group]

/-- An identifier is what its text denotes. -/
theorem ofText_toText (id : RuleId) : ofText id.toText = .ok id := by
  have denoted : ofGroups? id.groups = some id := by
    rw [ofGroups?, if_pos (lengths_groups id), numeral?_groups, Option.map_some, ofNat]
    simp only [Nat.mod_eq_of_lt id.bits_lt]
  rw [ofText, byteLength_toText]
  simp only [ofGrouped, fields_toText, denoted]

end LoginGate.RuleId
