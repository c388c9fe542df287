import LoginGate.Json.Decode
import LoginGate.Proofs.Json.Reading
import Mathlib.Data.List.Nodup

/-! # Records written and read

A record is written member by member in the order of its fields, the optional ones only where they
have a value, and is read from the members that are there. `Gathers` follows both: it relates the
fields and what is written for each to the record before and after they are read.
-/

namespace LoginGate.Json

/-! ## Values -/

theorem Numeral.value?_decimal {n : Nat} (fits : n < UInt64.size) :
    Numeral.value? ⟨false, Text.decimal n, [], none⟩ = some (.nat n) := by
  have value : Text.numeral? 10 (Text.decimal n) = some n :=
    Text.numeral?_toDigits (by decide) (by decide) n
  have nat : (!false && n < UInt64.size : Bool) = true := decide_eq_true fits
  have integer : Numeral.isInteger ⟨false, Text.decimal n, [], none⟩ = true := rfl
  rw [Numeral.value?, value, Option.filter_some, if_pos integer]
  exact if_pos nat

theorem small_nat {n : Nat} (fits : n < UInt16.size) : small (nat n).tree = .ok n := by
  have wide : n < UInt64.size := Nat.lt_trans fits (by decide)
  rw [tree, small, Numeral.value?_decimal wide]
  exact if_pos fits

theorem choice_string {α : Type} {ofName? : String → Option α} {known : List String}
    {name : String} {value : α} (named : ofName? name = some value) :
    choice ofName? known (string name).tree = .ok value := by
  rw [tree, choice, variant, named]

theorem optional_of_ok {α : Type} {decode : Tree → Except Fault α} {tree : Tree} {value : α}
    (reads : decode tree = .ok value) (written : tree ≠ .null) :
    optional decode tree = .ok (some value) := by
  rw [optional, reads]
  · rfl
  · exact written

theorem list_array {α : Type} {decode : Tree → Except Fault α} {encode : α → Json}
    {values : List α} (reads : ∀ value ∈ values, decode (encode value).tree = .ok value) :
    list decode (array (values.map encode)).tree = .ok values := by
  have items : (treeItems (values.map encode)).mapM decode = .ok values := by
    induction values with
    | nil => rfl
    | cons value rest ih =>
      obtain ⟨here, later⟩ := List.forall_mem_cons.mp reads
      rw [List.map_cons, treeItems, List.mapM_cons, here, ih later]
      rfl
  rw [tree, list, items]
  rfl

/-! ## Records -/

variable {σ : Type}

/-- The members of an object that leaves out what has no value. -/
def presentMembers : List (String × Option Json) → List (Option String × Tree)
  | [] => []
  | (_, none) :: rest => presentMembers rest
  | (key, some value) :: rest => (some key, value.tree) :: presentMembers rest

theorem tree_present (members : List (String × Option Json)) :
    (present members).tree = .object (presentMembers members) .closed := by
  rw [present, tree]
  congr 1
  induction members with
  | nil => rfl
  | cons member rest ih =>
    obtain ⟨key, _ | value⟩ := member
    · exact ih
    · exact congrArg ((some key, value.tree) :: ·) ih

/-- Reading what is written for these fields leads from the first record to the second. -/
inductive Gathers : List (RecordField σ) → List (String × Option Json) → σ → σ → Prop where
  | nil {record : σ} : Gathers [] [] record record
  /-- A field is read from its member. -/
  | read {field : RecordField σ} {fields : List (RecordField σ)} {value : Json}
      {members : List (String × Option Json)} {record next last : σ}
      (reads : field.read value.tree record = .ok next)
      (rest : Gathers fields members next last) :
      Gathers (field :: fields) ((field.name, some value) :: members) record last
  /-- An optional field is left out. -/
  | skip {field : RecordField σ} {fields : List (RecordField σ)}
      {members : List (String × Option Json)} {record last : σ}
      (free : field.required = false) (rest : Gathers fields members record last) :
      Gathers (field :: fields) ((field.name, none) :: members) record last

section

variable {α : Type} {field : RecordField σ} {fields : List (RecordField σ)}
  {members : List (String × Option Json)} {record last : σ} {decode : Tree → Except Fault α}

/-- A field is put into the record when its value is read back. -/
theorem Gathers.must {member : Json} {value : α} {put : α → σ}
    (puts : ∀ tree, field.read tree record = (do return put (← decode tree)))
    (reads : decode member.tree = .ok value) (rest : Gathers fields members (put value) last) :
    Gathers (field :: fields) ((field.name, some member) :: members) record last := by
  refine .read ?_ rest
  rw [puts, reads]
  rfl

/-- An optional field is put into the record where it has a value, and keeps having none where it
has not. -/
theorem Gathers.may {encode : α → Json} {value : Option α} {put : Option α → σ}
    (puts : ∀ tree, field.read tree record = (do return put (← optional decode tree)))
    (free : field.required = false) (absent : put none = record)
    (written : ∀ value, (encode value).tree ≠ .null)
    (reads : ∀ some ∈ value, decode (encode some).tree = .ok some)
    (rest : Gathers fields members (put value) last) :
    Gathers (field :: fields) ((field.name, value.map encode) :: members) record last := by
  cases value with
  | none =>
    rw [absent] at rest
    exact .skip free rest
  | some value => exact .must puts (optional_of_ok (reads value rfl) (written value)) rest

end

private theorem find?_of_mem {fields : List (RecordField σ)}
    (distinct : (fields.map (·.name)).Nodup) {field : RecordField σ} (member : field ∈ fields) :
    fields.find? (·.name == field.name) = some field := by
  induction fields with
  | nil => cases member
  | cons first rest ih =>
    obtain ⟨other, distinct⟩ := List.nodup_cons.mp distinct
    rcases List.mem_cons.mp member with rfl | later
    · exact List.find?_cons_of_pos (beq_self_eq_true _)
    · rw [List.find?_cons_of_neg, ih distinct later]
      rw [beq_iff_eq]
      intro same
      exact other (List.mem_map.mpr ⟨field, later, same.symm⟩)

/-- The members are read one after the other, and every required field is seen. -/
private theorem readMembers_of_gathers {all fields : List (RecordField σ)}
    {members : List (String × Option Json)} {record last : σ}
    (gathers : Gathers fields members record last) (distinct : (all.map (·.name)).Nodup)
    (known : fields.Sublist all) {seen : List String}
    (fresh : ∀ field ∈ fields, field.name ∉ seen) :
    ∃ names, readMembers all .closed seen record (presentMembers members) = .ok (names, last) ∧
      (∀ name ∈ seen, name ∈ names) ∧
      ∀ field ∈ fields, field.required = true → field.name ∈ names := by
  induction gathers generalizing seen with
  | nil => exact ⟨seen, rfl, fun _ member => member, nofun⟩
  | @read field fields value members record next last reads rest ih =>
    have here : field ∈ all := known.mem List.mem_cons_self
    obtain ⟨other, -⟩ := List.nodup_cons.mp (distinct.sublist (known.map (·.name)))
    have unseen : seen.contains field.name = false := by
      rw [List.contains_eq_mem, decide_eq_false_iff_not]
      exact fresh field List.mem_cons_self
    have later : ∀ field' ∈ fields, field'.name ∉ field.name :: seen := by
      intro field' member again
      rcases List.mem_cons.mp again with same | before
      · exact other (List.mem_map.mpr ⟨field', member, same⟩)
      · exact fresh field' (List.mem_cons_of_mem _ member) before
    obtain ⟨names, read, kept, required⟩ :=
      ih ((List.sublist_cons_self _ _).trans known) later
    refine ⟨names, ?_, fun name member => kept name (List.mem_cons_of_mem _ member), ?_⟩
    · rw [presentMembers, readMembers, find?_of_mem distinct here]
      dsimp only
      rw [unseen, if_neg Bool.false_ne_true, reads]
      exact read
    · intro field' member needed
      rcases List.mem_cons.mp member with rfl | member
      · exact kept _ List.mem_cons_self
      · exact required field' member needed
  | @skip field fields members record last free rest ih =>
    obtain ⟨names, read, kept, required⟩ :=
      ih ((List.sublist_cons_self _ _).trans known) fun other member =>
        fresh other (List.mem_cons_of_mem _ member)
    refine ⟨names, read, kept, fun other member needed => ?_⟩
    rcases List.mem_cons.mp member with rfl | later
    · rw [free] at needed
      cases needed
    · exact required other later needed

/-- A record is read from what is written for its fields. -/
theorem record_present {fields : List (RecordField σ)} {members : List (String × Option Json)}
    {blank last : σ} (name : String) (distinct : (fields.map (·.name)).Nodup)
    (gathers : Gathers fields members blank last) :
    record name fields blank (present members).tree = .ok last := by
  obtain ⟨names, read, -, required⟩ :=
    readMembers_of_gathers gathers distinct (List.Sublist.refl _) fun _ _ => List.not_mem_nil
  have complete : fields.find? (fun field => field.required && !names.contains field.name) =
      none := by
    rw [List.find?_eq_none]
    intro field member missing
    simp only [Bool.and_eq_true, Bool.not_eq_true', List.contains_eq_mem,
      decide_eq_false_iff_not] at missing
    exact missing.2 (required field member missing.1)
  rw [tree_present, record, ofMembers, read]
  simp only [bind, Except.bind, complete]

/-! ## Texts -/

/-- A value is decoded from its text as from its tree. -/
theorem decodeText_toText {α : Type} (decode : Tree → Except Fault α) (value : Json) :
    decodeText decode value.toText = decode value.tree := by
  rw [decodeText, toText, String.toList_ofList, read_render]
  dsimp only
  cases decode value.tree with
  | error fault => rfl
  | ok value => rfl

end LoginGate.Json
