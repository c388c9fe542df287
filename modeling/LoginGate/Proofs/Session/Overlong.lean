import LoginGate.Proofs.Session.Framing
import Mathlib.Data.List.Infix

/-! # Lines that are too long

Of a line beyond the bound only the bytes up to the bound and one more are looked at. They make a
text when the cut falls between two characters, and then the line is answered with a complaint. When
the cut falls inside a character they are not UTF-8, and the session ends without a word. Either way
neither the line nor what comes after it reaches the gate.
-/

namespace LoginGate.Session

/-! ## Lines of a text -/

/-- A well-formed stream has the lines of its text. -/
theorem wholeLines_encoded (text : List Char) :
    wholeLines (encoded text) = (linesAt '\n' text).map encoded := by
  induction text with
  | nil => rfl
  | cons c text ih =>
    rw [encoded_cons, linesAt]
    split
    · next feed =>
      subst feed
      rw [List.map_cons, ← ih]
      rfl
    · next other =>
      have single : encoded [c] = String.utf8EncodeChar c := by simp [encoded]
      have plain : lineFeed ∉ String.utf8EncodeChar c := by
        rw [← single, lineFeed_mem_encoded, List.mem_singleton]
        exact Ne.symm other
      rw [wholeLines, linesAt_append String.utf8EncodeChar_ne_nil plain, ← wholeLines, ih]
      cases linesAt '\n' text with
      | nil => rw [List.map_nil, List.headD_nil, List.append_nil, ← single]; rfl
      | cons first others => rw [List.map_cons, List.map_cons, encoded_cons]; rfl

/-! ## The cut -/

/-- The bytes of some of the first characters are as many as these, so they can be cut off without
dividing a character. -/
def CutsAt (text : List Char) (bytes : Nat) : Prop :=
  ∃ front, front <+: text ∧ (encoded front).length = bytes

instance (text : List Char) (bytes : Nat) : Decidable (CutsAt text bytes) :=
  decidable_of_iff (∃ front ∈ text.inits, (encoded front).length = bytes) <| by
    simp only [List.mem_inits, CutsAt]

/-- The first bytes of a text are a text when no character is divided. -/
theorem exists_encoded_eq_take_iff {text : List Char} {bytes : Nat}
    (inside : bytes ≤ (encoded text).length) :
    (∃ front, (encoded text).take bytes = encoded front) ↔ CutsAt text bytes := by
  constructor
  · rintro ⟨front, same⟩
    refine ⟨front, ?_, by rw [← same, List.length_take, Nat.min_eq_left inside]⟩
    -- No character's bytes begin with those of another, so a text is read off its first bytes.
    refine List.isPrefix_of_utf8Encode_append_eq_utf8Encode
      ((encoded text).drop bytes).toByteArray ?_
    change (encoded front).toByteArray ++ _ = (encoded text).toByteArray
    rw [← same, ← List.toByteArray_append, List.take_append_drop]
  · rintro ⟨front, ⟨rest, rfl⟩, rfl⟩
    refine ⟨front, ?_⟩
    rw [encoded_append, List.take_left]

/-- Of a line that reaches the bound, the bytes up to the bound are cut off. -/
theorem cut_of_long {most : Nat} {bytes line : List UInt8} {rest : List (List UInt8)}
    (lines : wholeLines bytes = line :: rest) (long : most ≤ line.length) :
    (cut most bytes).1 = line.take most := by
  induction most generalizing bytes line with
  | zero => rfl
  | succ most ih =>
    cases bytes with
    | nil => cases lines
    | cons byte bytes =>
      rw [wholeLines, linesAt] at lines
      rw [cut]
      split at lines
      · next feed =>
        obtain ⟨rfl, -⟩ := List.cons.inj lines
        rw [if_pos feed, List.take_of_length_le (Nat.succ_le_succ (Nat.zero_le _))]
      · next other =>
        rw [if_neg other]
        split at lines
        · next none =>
          obtain ⟨rfl, -⟩ := List.cons.inj lines
          obtain rfl : most = 0 := Nat.le_zero.mp (Nat.le_of_succ_le_succ long)
          rfl
        · next first others some =>
          obtain ⟨rfl, rfl⟩ := List.cons.inj lines
          exact congrArg (byte :: ·) (ih some (Nat.le_of_succ_le_succ long))

/-- A line beyond the bound is too long if it is cut between two characters, and otherwise it is not
UTF-8. -/
theorem demand_take {long : List Char} (exceeds : maxLine < (encoded long).length) :
    demand ((encoded long).take (maxLine + 1)) =
      if CutsAt long (maxLine + 1) then .tooLong else .undecodable := by
  split
  · next between =>
    obtain ⟨front, same⟩ := (exists_encoded_eq_take_iff exceeds).mpr between
    rw [demand, decode?_eq_some_iff.mpr same]
    dsimp only
    rw [if_pos (by rw [List.length_take]; omega)]
  · next inside =>
    exact demand_of_undecodable fun front same =>
      inside ((exists_encoded_eq_take_iff exceeds).mp ⟨front, same⟩)

/-! ## The end of the session -/

variable {σ β : Type} [RuleStore σ] [Limiter β]

/-- A stream that begins with a line beyond the bound is answered with a complaint at most. -/
theorem serve_of_overlong (gate : Gate σ β) {bytes : List UInt8} {long : List Char}
    {rest : List (List UInt8)} (whole : wholeLines bytes = encoded long :: rest)
    (exceeds : maxLine < (encoded long).length) :
    serve gate bytes = (if CutsAt long (maxLine + 1) then [tooLong] else [], gate) := by
  cases bytes with
  | nil => cases whole
  | cons byte bytes =>
    rw [serve, lines, cut_of_long whole exceeds, answerLines, demand_take exceeds]
    by_cases between : CutsAt long (maxLine + 1)
    · rw [if_pos between, if_pos between]
    · rw [if_neg between, if_neg between]

/-- A well-formed stream is given of which some lines are within the bound and the next one is not.
The lines before are answered as ever. For the long line there is one more response, the complaint,
if the cut falls between two characters of the line, and none if it falls inside a character. In
both cases that is the end of the session: the gate is left as the lines before leave it, and
nothing of the long line, or of what comes after it, matters. -/
theorem serve_ends_at_overlong (gate : Gate σ β) (text : List Char)
    (before later : List (List Char)) (long : List Char)
    (stream : linesAt '\n' text = before ++ long :: later)
    (short : ∀ line ∈ before, (encoded line).length ≤ maxLine)
    (exceeds : maxLine < (encoded long).length) :
    let answered := Service.handleLines gate (asked before)
    let served := serve gate (encoded text)
    answered.1.length = (asked before).length ∧
      served.1 = answered.1 ++ (if CutsAt long (maxLine + 1) then [tooLong] else []) ∧
      (tooLong.ok = false ∧ tooLong.kind = some "invalid_argument" ∧ tooLong.code = none ∧
        tooLong.message = some "request line too long") ∧
      wholeLines (served.1.flatMap written) = served.1.map written ∧
      served.2 = answered.2 := by
  intro answered served
  have whole : wholeLines (encoded text) =
      before.map encoded ++ encoded long :: later.map encoded := by
    rw [wholeLines_encoded, stream, List.map_append, List.map_cons]
  have ends := serve_of_overlong answered.2 (wholeLines_flatten whole) exceeds
  have all : served = (answered.1 ++ (if CutsAt long (maxLine + 1) then [tooLong] else []),
      answered.2) := by
    change serve gate (encoded text) = _
    rw [serve_of_texts gate whole short, ends]
  refine ⟨Service.length_handleLines gate _, ?_, ⟨rfl, rfl, rfl, rfl⟩, ?_, ?_⟩
  · rw [all]
  · exact wholeLines_flatMap_written served.1
  · rw [all]

private theorem length_encoded_replicate (letters : Nat) :
    (encoded (List.replicate letters 'a')).length = letters := by
  induction letters with
  | zero => rfl
  | succ letters ih =>
    rw [List.replicate_succ, encoded_cons, List.length_append, ih, Nat.add_comm]
    rfl

private theorem lineBreak_not_mem_replicate (letters : Nat) :
    '\n' ∉ List.replicate letters 'a' := fun member => by
  cases List.eq_of_mem_replicate member

/-- A rule is added, the long line gets a complaint, and the rule is not deleted any more. -/
theorem serve_ends_at_overlong_of_letters :
    let gate : Gate MemoryStore Registry :=
      { store := .empty ⟨0, 0⟩ RuleId.ofNat
        limiter := .empty
        window := ⟨100, by decide, by decide⟩
        limits := {} }
    let adds := "[\"add_rule\",\"deny\",\"10.0.0.0/8\"]".toList
    let letters := List.replicate (maxLine + 1) 'a'
    let deletes := "[\"delete_rule\",\"deny\",\"10.0.0.0/8\"]".toList
    let text := adds ++ '\n' :: (letters ++ '\n' :: deletes)
    (serve gate (encoded text)).1.length = 2 ∧
      (serve gate (encoded text)).1.getLast? = some tooLong ∧
      (serve gate (encoded text)).2.store.rules.length = 1 := by
  intro gate adds letters deletes text
  have stream : linesAt '\n' text =
      [adds ++ ['\n']] ++ (letters ++ ['\n']) :: [deletes] := by
    have last : linesAt '\n' deletes = [deletes] := by decide +kernel
    change linesAt '\n' (adds ++ '\n' :: (letters ++ '\n' :: deletes)) = _
    rw [linesAt_line (by decide +kernel), linesAt_line (lineBreak_not_mem_replicate _), last,
      List.singleton_append]
  have exceeds : maxLine < (encoded (letters ++ ['\n'])).length := by
    rw [encoded_append, List.length_append, length_encoded_replicate]
    decide
  have between : CutsAt (letters ++ ['\n']) (maxLine + 1) :=
    ⟨letters, List.prefix_append _ _, length_encoded_replicate _⟩
  obtain ⟨counted, answers, -, -, left⟩ := serve_ends_at_overlong gate text [adds ++ ['\n']] [deletes]
    (letters ++ ['\n']) stream (by decide +kernel) exceeds
  rw [if_pos between] at answers
  refine ⟨?_, ?_, ?_⟩
  · rw [answers, List.length_append, counted]
    decide +kernel
  · rw [answers, List.getLast?_concat]
  · rw [left]
    decide +kernel

/-- A long line has no answer when its bytes are cut off inside a character. -/
theorem serve_overlong_unanswered :
    let gate : Gate MemoryStore Registry :=
      { store := .empty ⟨0, 0⟩ RuleId.ofNat
        limiter := .empty
        window := ⟨100, by decide, by decide⟩
        limits := {} }
    let long := List.replicate maxLine 'a' ++ ['é'] ++ ['\n']
    linesAt '\n' long = [long] ∧ maxLine < (encoded long).length ∧
      (serve gate (encoded long)).1 = [] := by
  intro gate long
  have plain : '\n' ∉ List.replicate maxLine 'a' ++ ['é'] := by
    rw [List.mem_append, List.mem_singleton]
    exact not_or.mpr ⟨lineBreak_not_mem_replicate _, by decide⟩
  have stream : linesAt '\n' long = [long] := linesAt_line plain []
  have bytes : (encoded long).length = maxLine + 3 := by
    rw [encoded_append, encoded_append, List.length_append, List.length_append,
      length_encoded_replicate]
    rfl
  have whole : wholeLines (encoded long) = encoded long :: [] := by
    rw [wholeLines_encoded, stream, List.map_cons, List.map_nil]
  have inside : ¬ CutsAt long (maxLine + 1) := by
    rintro ⟨front, begins, same⟩
    -- The front has the letters only, or the character after them with both of its bytes.
    rcases List.prefix_concat_iff.mp begins with all | begins
    · rw [all, bytes] at same
      omega
    · rcases List.prefix_concat_iff.mp begins with all | ⟨rest, letters⟩
      · rw [all, encoded_append, List.length_append, length_encoded_replicate] at same
        exact absurd (Nat.add_left_cancel same) (by decide)
      · have total := length_encoded_replicate maxLine
        rw [← letters, encoded_append, List.length_append] at total
        omega
  refine ⟨stream, by omega, ?_⟩
  rw [serve_of_overlong gate whole (by omega), if_neg inside]

end LoginGate.Session
