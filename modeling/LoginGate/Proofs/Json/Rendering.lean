import LoginGate.Json.Value
import LoginGate.Text.Fields

/-! # Written values stay on one line

A written value has no control characters: those of its strings are escaped, and all else it is made
of is shown. In particular there is no line break in it, so a value can be sent as a line. Trimming
the line of an object leaves the object, which stands between braces.
-/

namespace LoginGate

theorem Text.le_of_mem_toDigits {base n : Nat} (large : 1 < base) (small : base ≤ 16) {c : Char}
    (member : c ∈ Nat.toDigits base n) : 0x20 ≤ c.toNat := by
  have digit := isSome_digitValue?_of_mem_toDigits large small member
  exact Nat.le_trans (by decide) (toNat_of_isSome_digitValue? digit).1

theorem Text.trimRight_append_singleton {text : List Char} {c : Char} (blank : isBlank c = true) :
    trimRight (text ++ [c]) = trimRight text := by
  simp [trimRight, blank]

namespace Json

/-! ## Characters -/

theorem le_of_mem_escaped {c d : Char} (member : d ∈ escaped c) : 0x20 ≤ d.toNat := by
  have shown {first second : Char} (bounds : 0x20 ≤ first.toNat ∧ 0x20 ≤ second.toNat)
      (either : d ∈ [first, second]) : 0x20 ≤ d.toNat := by
    rcases List.mem_cons.mp either with rfl | either
    · exact bounds.1
    · exact List.mem_singleton.mp either ▸ bounds.2
  revert member
  fun_cases escaped c with
  | case8 =>
    intro member
    rcases List.mem_cons.mp member with rfl | member
    · decide
    rcases List.mem_cons.mp member with rfl | member
    · decide
    rcases List.mem_append.mp member with zero | digit
    · rw [List.eq_of_mem_replicate zero]
      decide
    · exact Text.le_of_mem_toDigits (by decide) (by decide) digit
  | case9 =>
    intro member
    obtain rfl := List.mem_singleton.mp member
    omega
  | _ => exact shown (by decide)

theorem le_of_mem_written {text : String} {c : Char} (member : c ∈ written text) :
    0x20 ≤ c.toNat := by
  simp only [written, List.cons_append, List.mem_cons, List.mem_append, List.mem_flatMap,
    List.not_mem_nil, or_false] at member
  rcases member with rfl | ⟨d, -, member⟩ | rfl
  · decide
  · exact le_of_mem_escaped member
  · decide

/-- The characters of a fixed text can be looked through. -/
private theorem le_of_all {text : List Char} (all : text.all (0x20 ≤ ·.toNat) = true) :
    ∀ c ∈ text, 0x20 ≤ c.toNat :=
  fun c member => of_decide_eq_true (List.all_eq_true.mp all c member)

mutual

/-- A written value has no control characters. -/
theorem le_of_mem_render (value : Json) : ∀ c ∈ render value, 0x20 ≤ c.toNat := by
  match value with
  | null => exact le_of_all (by decide)
  | bool true => exact le_of_all (by decide)
  | bool false => exact le_of_all (by decide)
  | nat value => exact fun c => Text.le_of_mem_toDigits (by decide) (by decide)
  | string text => exact fun c => le_of_mem_written
  | array [] => exact le_of_all (by decide)
  | array (first :: rest) =>
    rw [render]
    simp only [List.cons_append, List.forall_mem_cons, List.forall_mem_append]
    exact ⟨by decide, le_of_mem_render first, le_of_mem_renderItems rest⟩
  | object [] => exact le_of_all (by decide)
  | object ((key, value) :: rest) =>
    rw [render]
    simp only [List.cons_append, List.append_assoc, List.forall_mem_cons, List.forall_mem_append]
    exact ⟨by decide, fun c => le_of_mem_written, by decide, le_of_mem_render value,
      le_of_mem_renderMembers rest⟩

theorem le_of_mem_renderItems (items : List Json) : ∀ c ∈ renderItems items, 0x20 ≤ c.toNat := by
  match items with
  | [] => exact le_of_all (by decide)
  | item :: rest =>
    rw [renderItems]
    simp only [List.cons_append, List.forall_mem_cons, List.forall_mem_append]
    exact ⟨by decide, le_of_mem_render item, le_of_mem_renderItems rest⟩

theorem le_of_mem_renderMembers (members : List (String × Json)) :
    ∀ c ∈ renderMembers members, 0x20 ≤ c.toNat := by
  match members with
  | [] => exact le_of_all (by decide)
  | (key, value) :: rest =>
    rw [renderMembers]
    simp only [List.cons_append, List.append_assoc, List.forall_mem_cons, List.forall_mem_append]
    exact ⟨by decide, fun c => le_of_mem_written, by decide, le_of_mem_render value,
      le_of_mem_renderMembers rest⟩

end

/-- A written value is a single line. -/
theorem lineBreak_not_mem_render (value : Json) : '\n' ∉ render value := by
  intro member
  have shown := le_of_mem_render value '\n' member
  exact absurd shown (by decide)

/-! ## Lines that hold an object -/

private theorem exists_renderMembers (members : List (String × Json)) :
    ∃ inner, renderMembers members = inner ++ ['\x7d'] := by
  induction members with
  | nil => exact ⟨[], rfl⟩
  | cons member rest ih =>
    obtain ⟨key, value⟩ := member
    obtain ⟨inner, ends⟩ := ih
    exact ⟨',' :: written key ++ ':' :: render value ++ inner, by
      rw [renderMembers, ends]
      simp only [List.append_assoc, List.cons_append]⟩

/-- An object stands between braces. -/
private theorem exists_render_object (members : List (String × Json)) :
    ∃ inner, render (.object members) = '\x7b' :: (inner ++ ['\x7d']) := by
  cases members with
  | nil => exact ⟨[], rfl⟩
  | cons member rest =>
    obtain ⟨key, value⟩ := member
    obtain ⟨inner, ends⟩ := exists_renderMembers rest
    exact ⟨written key ++ ':' :: render value ++ inner, by
      rw [render, ends]
      simp only [List.append_assoc, List.cons_append]⟩

theorem exists_render_present (members : List (String × Option Json)) :
    ∃ inner, (present members).render = '\x7b' :: (inner ++ ['\x7d']) :=
  exists_render_object _

/-- Nothing but the line feed is trimmed from the line of an object. -/
theorem trim_line_present (members : List (String × Option Json)) :
    Text.trim ((present members).render ++ ['\n']) = (present members).render ∧
      Text.trimRight ((present members).render ++ ['\n']) = (present members).render := by
  obtain ⟨inner, braces⟩ := exists_render_present members
  have front : Text.trimLeft ((present members).render ++ ['\n']) =
      (present members).render ++ ['\n'] := by
    rw [braces]
    exact List.dropWhile_cons_of_neg (by decide)
  have whole : Text.trimRight ((present members).render ++ ['\n']) = (present members).render := by
    rw [Text.trimRight_append_singleton (by decide), braces, ← List.cons_append, Text.trimRight,
      List.reverse_append, List.reverse_singleton, List.singleton_append,
      List.dropWhile_cons_of_neg (by decide), List.reverse_cons, List.reverse_reverse]
  exact ⟨by rw [Text.trim, front, whole], whole⟩

end Json
end LoginGate
