import LoginGate.Proofs.Json.Rendering
import LoginGate.Proofs.Session.Encoding
import LoginGate.Registry
import LoginGate.RuleStore
import Mathlib.Data.List.TakeWhile

/-! # One answer for each line

A stream is cut into lines with a bound on the bytes that are looked at. Lines within the bound are
the lines of the stream, so as long as there are only such lines, and they are UTF-8, every line
that is not blank has one line for an answer, in order. The first line that is not UTF-8 ends the
answers.
-/

namespace LoginGate

/-! ## Blank texts -/

theorem Text.trim_eq_nil_iff {text : List Char} : trim text = [] ↔ text.all isBlank = true := by
  have front : text = text.takeWhile isBlank ++ trimLeft text :=
    List.takeWhile_append_dropWhile.symm
  rw [trim, trimRight, List.reverse_eq_nil_iff, List.dropWhile_eq_nil_iff, List.all_eq_true]
  constructor
  · intro back c member
    rw [front, List.mem_append] at member
    rcases member with early | late
    · exact List.mem_takeWhile_imp early
    · exact back c (List.mem_reverse.mpr late)
  · intro all c member
    refine all c ?_
    rw [front]
    exact List.mem_append_right _ (List.mem_reverse.mp member)

namespace Service

variable {σ β : Type} [RuleStore σ] [Limiter β]

/-- Answers lines one after the other. -/
def handleLines (gate : Gate σ β) : List String → List Response × Gate σ β
  | [] => ([], gate)
  | line :: rest =>
    let (response, gate) := handleLine gate line
    let (responses, gate) := handleLines gate rest
    (response :: responses, gate)

theorem handleLines_snd (gate : Gate σ β) (lines : List String) :
    (handleLines gate lines).2 = lines.foldl (fun gate line => (handleLine gate line).2) gate := by
  induction lines generalizing gate with
  | nil => rfl
  | cons line rest ih => exact ih (handleLine gate line).2

theorem length_handleLines (gate : Gate σ β) (lines : List String) :
    (handleLines gate lines).1.length = lines.length := by
  induction lines generalizing gate with
  | nil => rfl
  | cons line rest ih => exact congrArg (· + 1) (ih (handleLine gate line).2)

end Service

namespace Session

/-! ## The lines of a stream -/

section

variable {α : Type} [DecidableEq α] {ending : α}

/-- The lines of a list, each with the element that ends it, however long they are. -/
def linesAt (ending : α) : List α → List (List α)
  | [] => []
  | item :: items =>
    if item = ending then [item] :: linesAt ending items
    else
      match linesAt ending items with
      | [] => [[item]]
      | first :: others => (item :: first) :: others

/-- What stands before the first ending belongs to the first line. -/
theorem linesAt_append {front : List α} (some : front ≠ []) (plain : ending ∉ front)
    (rest : List α) :
    linesAt ending (front ++ rest) =
      (front ++ (linesAt ending rest).headD []) :: (linesAt ending rest).tail := by
  induction front with
  | nil => exact absurd rfl some
  | cons item front ih =>
    obtain ⟨differs, plain⟩ := List.ne_and_not_mem_of_not_mem_cons plain
    rw [List.cons_append, linesAt, if_neg (Ne.symm differs)]
    by_cases more : front = []
    · rw [more, List.nil_append]
      cases linesAt ending rest <;> rfl
    · rw [ih more plain]
      rfl

theorem linesAt_line {line : List α} (plain : ending ∉ line) (rest : List α) :
    linesAt ending (line ++ ending :: rest) = (line ++ [ending]) :: linesAt ending rest := by
  have first : linesAt ending (ending :: rest) = [ending] :: linesAt ending rest := by
    rw [linesAt, if_pos rfl]
  by_cases some : line = []
  · rw [some, List.nil_append, first, List.nil_append]
  · rw [linesAt_append some plain, first, List.headD_cons, List.tail_cons]

theorem flatten_linesAt (items : List α) : (linesAt ending items).flatten = items := by
  induction items with
  | nil => rfl
  | cons item items ih =>
    rw [linesAt]
    split
    · rw [List.flatten_cons, ih, List.singleton_append]
    · split
      · next none =>
        rw [none] at ih
        rw [← ih]
        rfl
      · next first others some =>
        rw [some] at ih
        rw [List.flatten_cons, List.cons_append, ← List.flatten_cons, ih]

end

/-- The lines of a stream, each with the line feed that ends it. -/
def wholeLines (bytes : List UInt8) : List (List UInt8) :=
  linesAt lineFeed bytes

/-- A line within the bound is cut off whole, and the other lines are left. -/
theorem cut_of_wholeLines {most : Nat} {bytes line : List UInt8} {rest : List (List UInt8)}
    (lines : wholeLines bytes = line :: rest) (short : line.length ≤ most) :
    cut most bytes = (line, rest.flatten) ∧ wholeLines rest.flatten = rest := by
  -- The bound shrinks with every byte of the line, so it varies in the induction on the stream.
  induction bytes generalizing most line with
  | nil => cases lines
  | cons byte bytes ih =>
    have whole : (linesAt lineFeed bytes).flatten = bytes := flatten_linesAt bytes
    rw [wholeLines, linesAt] at lines
    cases most with
    | zero =>
      exfalso
      revert lines
      rw [List.eq_nil_of_length_eq_zero (Nat.le_zero.mp short)]
      split
      · nofun
      · split <;> nofun
    | succ most =>
      rw [cut]
      split at lines
      · next feed =>
        obtain ⟨rfl, rfl⟩ := List.cons.inj lines
        rw [if_pos feed, whole]
        exact ⟨rfl, rfl⟩
      · next other =>
        rw [if_neg other]
        split at lines
        · next none =>
          obtain ⟨rfl, rfl⟩ := List.cons.inj lines
          obtain rfl : bytes = [] := by rw [← whole, none, List.flatten_nil]
          cases most <;> exact ⟨rfl, rfl⟩
        · next first others some =>
          obtain ⟨rfl, rfl⟩ := List.cons.inj lines
          obtain ⟨cuts, rest⟩ := ih some (Nat.le_of_succ_le_succ short)
          rw [cuts]
          exact ⟨rfl, rest⟩

/-- The lines that are looked at begin with the lines of the stream. -/
theorem lines_of_wholeLines {bytes line : List UInt8} {rest : List (List UInt8)}
    (whole : wholeLines bytes = line :: rest) (short : line.length ≤ maxLine) :
    lines bytes = line :: lines rest.flatten := by
  obtain ⟨cuts, -⟩ := cut_of_wholeLines whole (Nat.le_succ_of_le short)
  cases bytes with
  | nil => cases whole
  | cons byte bytes => rw [lines, cuts]

/-! ## Lines that arrive in pieces -/

theorem length_cut_le (most : Nat) (bytes : List UInt8) : (cut most bytes).1.length ≤ most := by
  induction most generalizing bytes with
  | zero => exact Nat.le_refl _
  | succ most ih =>
    cases bytes with
    | nil => exact Nat.zero_le _
    | cons byte bytes =>
      rw [cut]
      split
      · exact Nat.succ_le_succ (Nat.zero_le _)
      · exact Nat.succ_le_succ (ih bytes)

/-- A line that is complete stays the same when more bytes arrive. -/
theorem cut_append {most : Nat} {arrived line rest : List UInt8}
    (cuts : cut most arrived = (line, rest))
    (complete : line.getLast? = some lineFeed ∨ line.length = most) (more : List UInt8) :
    cut most (arrived ++ more) = (line, rest ++ more) := by
  induction most generalizing arrived line with
  | zero =>
    obtain ⟨rfl, rfl⟩ := Prod.mk.inj cuts
    rfl
  | succ most ih =>
    cases arrived with
    | nil =>
      obtain ⟨rfl, rfl⟩ := Prod.mk.inj cuts
      rcases complete with feed | full <;> contradiction
    | cons byte bytes =>
      rw [cut] at cuts
      rw [List.cons_append, cut]
      split at cuts
      · next feed =>
        obtain ⟨rfl, rfl⟩ := Prod.mk.inj cuts
        rw [if_pos feed]
      · next other =>
        obtain ⟨rfl, rfl⟩ := Prod.mk.inj cuts
        -- A line that ends with a line feed still does without its first byte, which is none.
        have later : (cut most bytes).1.getLast? = some lineFeed ∨
            (cut most bytes).1.length = most := by
          refine complete.imp (fun feed => ?_) Nat.succ.inj
          rw [List.getLast?_cons] at feed
          cases last : (cut most bytes).1.getLast? with
          | none =>
            rw [last] at feed
            exact absurd (Option.some.inj feed) other
          | some byte =>
            rw [last] at feed
            exact feed
        rw [if_neg other, ih rfl later]

/-- A line is taken from what has arrived as it will be taken from the whole stream, in whatever
pieces the rest arrives; when the stream has ended there is no rest. -/
theorem lines_of_next? {ended : Bool} {arrived line rest more : List UInt8}
    (ready : next? ended arrived = some (line, rest)) (silent : ended = true → more = []) :
    lines (arrived ++ more) = line :: lines (rest ++ more) := by
  obtain ⟨⟨first, left⟩, cuts⟩ : ∃ parts, cut (maxLine + 1) arrived = parts := ⟨_, rfl⟩
  rw [next?, cuts] at ready
  dsimp only at ready
  split at ready
  · next complete =>
    obtain ⟨rfl, rfl⟩ := Prod.mk.inj (Option.some.inj ready)
    have bound := length_cut_le (maxLine + 1) arrived
    rw [cuts] at bound
    simp only [Bool.or_eq_true, decide_eq_true_eq, Bool.and_eq_true] at complete
    have whole : cut (maxLine + 1) (arrived ++ more) = (first, left ++ more) := by
      rcases complete with (feed | long) | ⟨closed, -⟩
      · exact cut_append cuts (.inl feed) more
      · exact cut_append cuts (.inr (Nat.le_antisymm bound long)) more
      · rw [silent closed, List.append_nil, List.append_nil, cuts]
    cases stream : arrived ++ more with
    | nil =>
      obtain ⟨rfl, -⟩ := List.append_eq_nil_iff.mp stream
      obtain ⟨rfl, -⟩ := Prod.mk.inj cuts
      rcases complete with (feed | long) | ⟨-, some⟩ <;> contradiction
    | cons byte bytes =>
      rw [stream] at whole
      rw [lines, whole]
  · cases ready

/-! ## Answers -/

/-- A text is answered unless it is blank, and then without the blanks around it. -/
theorem demand_encoded {text : List Char} (short : (encoded text).length ≤ maxLine) :
    demand (encoded text) =
      if text.all Text.isBlank then .nothing else .answer (String.ofList (Text.trim text)) := by
  rw [demand, decode?_eq_some_iff.mpr rfl]
  dsimp only
  rw [if_neg (Nat.not_lt.mpr short)]
  by_cases blank : text.all Text.isBlank = true
  · rw [if_pos blank, if_pos (List.isEmpty_iff.mpr (Text.trim_eq_nil_iff.mpr blank))]
  · rw [if_neg blank, if_neg (mt List.isEmpty_iff.mp (mt Text.trim_eq_nil_iff.mp blank))]

theorem demand_of_undecodable {line : List UInt8} (undecodable : ∀ text, line ≠ encoded text) :
    demand line = .undecodable := by
  rw [demand, decode?_eq_none_iff.mpr undecodable]

/-- The lines that are answered: those that are not blank, without the blanks around them. -/
def asked (texts : List (List Char)) : List String :=
  (texts.filter fun text => !text.all Text.isBlank).map fun text => String.ofList (Text.trim text)

variable {σ β : Type} [RuleStore σ] [Limiter β]

/-- Lines of texts within the bound are answered one after the other, and what is left of the stream
meets the gate after them. -/
theorem serve_of_texts (gate : Gate σ β) {bytes : List UInt8} {texts : List (List Char)}
    {rest : List (List UInt8)} (whole : wholeLines bytes = texts.map encoded ++ rest)
    (short : ∀ text ∈ texts, (encoded text).length ≤ maxLine) :
    serve gate bytes =
      ((Service.handleLines gate (asked texts)).1 ++
          (serve (Service.handleLines gate (asked texts)).2 rest.flatten).1,
        (serve (Service.handleLines gate (asked texts)).2 rest.flatten).2) := by
  induction texts generalizing gate bytes with
  | nil =>
    obtain rfl : bytes = rest.flatten := by rw [← flatten_linesAt bytes, ← wholeLines, whole]; rfl
    rfl
  | cons text texts ih =>
    obtain ⟨bound, short⟩ := List.forall_mem_cons.mp short
    obtain ⟨-, left⟩ := cut_of_wholeLines whole (Nat.le_refl _)
    rw [serve, lines_of_wholeLines whole bound, answerLines, demand_encoded bound]
    by_cases blank : text.all Text.isBlank = true
    · have skipped : asked (text :: texts) = asked texts := by simp [asked, blank]
      rw [if_pos blank, skipped]
      exact ih gate left short
    · have next : asked (text :: texts) = String.ofList (Text.trim text) :: asked texts := by
        simp [asked, blank]
      have later := ih (Service.handleLine gate (String.ofList (Text.trim text))).2 left short
      rw [serve] at later
      rw [if_neg blank, next, Service.handleLines]
      dsimp only
      rw [later]
      rfl

/-- What is left of a stream after some lines has the other lines. -/
theorem wholeLines_flatten {bytes : List UInt8} {first rest : List (List UInt8)}
    (whole : wholeLines bytes = first ++ rest) : wholeLines rest.flatten = rest := by
  induction first generalizing bytes with
  | nil =>
    rw [List.nil_append] at whole
    have all : (wholeLines bytes).flatten = bytes := flatten_linesAt bytes
    rw [← whole, all]
  | cons line first ih => exact ih (cut_of_wholeLines whole (Nat.le_refl _)).2

/-- Lines are answered one after the other, up to the first that is not UTF-8. -/
theorem serve_eq_handleLines (gate : Gate σ β) {bytes : List UInt8} {texts : List (List Char)}
    {rest : List (List UInt8)} (whole : wholeLines bytes = texts.map encoded ++ rest)
    (short : ∀ text ∈ texts, (encoded text).length ≤ maxLine)
    (ending : rest = [] ∨ ∃ bad later, rest = bad :: later ∧ bad.length ≤ maxLine ∧
      ∀ text, bad ≠ encoded text) :
    serve gate bytes = Service.handleLines gate (asked texts) := by
  have silent (left : Gate σ β) : serve left rest.flatten = ([], left) := by
    rcases ending with rfl | ⟨bad, later, rfl, bound, undecodable⟩
    · rw [List.flatten_nil, serve, lines]
      rfl
    · rw [serve, lines_of_wholeLines (wholeLines_flatten whole) bound, answerLines,
        demand_of_undecodable undecodable]
  rw [serve_of_texts gate whole short, silent, List.append_nil]

/-! ## Written answers -/

theorem toList_toText (value : Json) : value.toText.toUTF8.toList = encoded value.render := by
  rw [toList_toUTF8, Json.toText, String.toList_ofList]

theorem lineFeed_not_mem_render (value : Json) : lineFeed ∉ encoded value.render :=
  fun member => Json.lineBreak_not_mem_render _ (lineFeed_mem_encoded.mp member)

theorem written_eq (response : Response) :
    written response = encoded response.toJson.render ++ [lineFeed] := by
  rw [written, toList_toText]

/-- An answer has no line feed but the one that ends it. -/
theorem lineFeed_not_mem_encoded (response : Response) :
    lineFeed ∉ encoded response.toJson.render :=
  lineFeed_not_mem_render _

/-- Who reads the answers line by line finds each as it was written. -/
theorem wholeLines_flatMap_written (responses : List Response) :
    wholeLines (responses.flatMap written) = responses.map written := by
  induction responses with
  | nil => rfl
  | cons response rest ih =>
    rw [List.flatMap_cons, written_eq, List.append_assoc, List.singleton_append, wholeLines,
      linesAt_line (lineFeed_not_mem_encoded response), ← wholeLines, ih, ← written_eq,
      List.map_cons]

/-- A stream is given whose lines, up to some point, are texts in UTF-8 within the bound; after them
it ends or has a line within the bound that is not UTF-8. Then the lines of texts are answered in
order, except for blank ones: each answer is the text of the response to the trimmed line, without a
line feed, and a line feed. The gate is left as these lines leave it, and what comes after them
has no answer and no effect. -/
theorem serve_answers_each_line (gate : Gate σ β) (bytes : List UInt8) (texts : List (List Char))
    (rest : List (List UInt8)) (whole : wholeLines bytes = texts.map encoded ++ rest)
    (short : ∀ text ∈ texts, (encoded text).length ≤ maxLine)
    (ending : rest = [] ∨ ∃ bad later, rest = bad :: later ∧ bad.length ≤ maxLine ∧
      ∀ text, bad ≠ encoded text) :
    let responses := (Service.handleLines gate (asked texts)).1
    let output := (serve gate bytes).1.flatMap written
    output = responses.flatMap (fun response => encoded response.toJson.render ++ [lineFeed]) ∧
      responses.length = (asked texts).length ∧
      wholeLines output = responses.map written ∧
      (∀ response ∈ responses, lineFeed ∉ encoded response.toJson.render) ∧
      (serve gate bytes).2 =
        (asked texts).foldl (fun gate line => (Service.handleLine gate line).2) gate := by
  intro responses output
  have served : serve gate bytes = Service.handleLines gate (asked texts) :=
    serve_eq_handleLines gate whole short ending
  have answers : output = responses.flatMap written := by
    change (serve gate bytes).1.flatMap written = _
    rw [served]
  refine ⟨?_, Service.length_handleLines gate _, ?_, ?_, ?_⟩
  · rw [answers]
    exact congrArg (responses.flatMap ·) (funext written_eq)
  · rw [answers, wholeLines_flatMap_written]
  · intro response _
    exact lineFeed_not_mem_encoded response
  · rw [served, Service.handleLines_snd]

/-- Blank lines are skipped, a carriage return counts as a blank, and the rule is not deleted after
a line that is not UTF-8. -/
theorem serve_answers_each_line_of_broken :
    let gate : Gate MemoryStore Registry :=
      { store := .empty ⟨0, 0⟩ RuleId.ofNat
        limiter := .empty
        window := ⟨100, by decide, by decide⟩
        limits := {} }
    let texts := [" \t\n", " [\"add_rule\",\"deny\",\"10.0.0.0/8\"]\r\n", "\u00a0\n",
      "[\"add_rule\",\"allow\",\"10.1.2.3/8\"]\n"].map String.toList
    let later := encoded "[\"delete_rule\",\"deny\",\"10.0.0.0/8\"]".toList
    let bytes := texts.flatMap encoded ++ 0xFF :: lineFeed :: later
    (wholeLines ((serve gate bytes).1.flatMap written)).length = 2 ∧
      (serve gate bytes).2.store.rules.length = 1 := by
  intro gate texts later bytes
  have undecodable : ∀ text, [0xFF, lineFeed] ≠ encoded text :=
    decode?_eq_none_iff.mp (by decide +kernel)
  obtain ⟨-, counted, lines, -, left⟩ := serve_answers_each_line gate bytes texts
    [[0xFF, lineFeed], later] (by decide +kernel) (by decide +kernel)
    (.inr ⟨_, _, rfl, by decide, undecodable⟩)
  constructor
  · rw [lines, List.length_map, counted]
    decide +kernel
  · rw [left]
    decide +kernel

end Session
end LoginGate
