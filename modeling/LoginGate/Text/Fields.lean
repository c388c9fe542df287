/-! # Fields and words of a text

`fields` cuts a text at separators and keeps every stretch between two of them, empty ones included,
so nothing is lost but the separators: `fields_append_cons` reads a text field by field and
`fields_eq_singleton` ends it. `words` cuts a text at blanks and keeps what is not empty.
-/

namespace LoginGate.Text

/-- The stretches between separators, in order; `n` separators make `n + 1` fields. -/
def fields (isSeparator : Char → Bool) : List Char → List (List Char)
  | [] => [[]]
  | c :: rest =>
    if isSeparator c then [] :: fields isSeparator rest
    else
      match fields isSeparator rest with
      | [] => [[c]]
      | first :: others => (c :: first) :: others

variable {isSeparator : Char → Bool}

theorem fields_eq_singleton {text : List Char} (plain : ∀ c ∈ text, isSeparator c = false) :
    fields isSeparator text = [text] := by
  induction text with
  | nil => rfl
  | cons c rest ih =>
    simp [fields, plain c (by simp), ih fun d member => plain d (by simp [member])]

/-- The first field ends at the first separator. -/
theorem fields_append_cons {field rest : List Char} {c : Char}
    (plain : ∀ d ∈ field, isSeparator d = false) (separator : isSeparator c = true) :
    fields isSeparator (field ++ c :: rest) = field :: fields isSeparator rest := by
  induction field with
  | nil => simp [fields, separator]
  | cons d field ih =>
    simp [fields, plain d (by simp), ih fun e member => plain e (by simp [member])]

/-- There is one field more than there are separators. -/
theorem length_fields (text : List Char) :
    (fields isSeparator text).length = text.countP isSeparator + 1 := by
  induction text with
  | nil => rfl
  | cons c rest ih =>
    rw [fields]
    split
    · next separator => rw [List.length_cons, ih, List.countP_cons_of_pos separator]
    · next plain =>
      rw [List.countP_cons_of_neg plain, ← ih]
      split
      · next none => simp [none] at ih
      · next first others more => rw [more, List.length_cons, List.length_cons]

theorem one_lt_length_fields {text : List Char} {c : Char} (member : c ∈ text)
    (separator : isSeparator c = true) : 1 < (fields isSeparator text).length := by
  rw [length_fields]
  exact Nat.succ_lt_succ (List.countP_pos_iff.mpr ⟨c, member, separator⟩)

/-! ## Blank characters

Trimming a text and cutting it into words go by the Unicode property White_Space: the ASCII blanks,
next line, the no-break and ideographic spaces and the other wide spaces. Zero-width characters are
not blank.
-/

/-- The Unicode property White_Space. -/
def isBlank (c : Char) : Bool :=
  let n := c.toNat
  (9 ≤ n && n ≤ 13) || n == 0x20 || n == 0x85 || n == 0xA0 || n == 0x1680 ||
    (0x2000 ≤ n && n ≤ 0x200A) || n == 0x2028 || n == 0x2029 || n == 0x202F || n == 0x205F ||
    n == 0x3000

def trimLeft (text : List Char) : List Char :=
  text.dropWhile isBlank

def trimRight (text : List Char) : List Char :=
  (text.reverse.dropWhile isBlank).reverse

def trim (text : List Char) : List Char :=
  trimRight (trimLeft text)

/-- The stretches between blanks, in order; none is empty. -/
def words (text : List Char) : List (List Char) :=
  (fields isBlank text).filter fun word => !word.isEmpty

theorem trim_eq_self {text : List Char} (front : ∀ c ∈ text.head?, isBlank c = false)
    (back : ∀ c ∈ text.getLast?, isBlank c = false) : trim text = text := by
  have left : trimLeft text = text := by
    cases text with
    | nil => rfl
    | cons c rest => simp [trimLeft, front c (by simp)]
  rw [trim, left, trimRight]
  cases reversed : text.reverse with
  | nil => simpa using reversed.symm
  | cons c rest =>
    have last : text.getLast? = some c := by
      rw [List.getLast?_eq_head?_reverse, reversed, List.head?_cons]
    rw [List.dropWhile_cons_of_neg (by simp [back c (by simp [last])]), ← reversed,
      List.reverse_reverse]

/-- Trimming adds no character. -/
theorem mem_of_mem_trim {text : List Char} {c : Char} (member : c ∈ trim text) : c ∈ text := by
  rw [trim, trimRight, List.mem_reverse] at member
  have kept := (List.dropWhile_sublist _).subset member
  rw [List.mem_reverse] at kept
  exact (List.dropWhile_sublist _).subset kept

end LoginGate.Text
