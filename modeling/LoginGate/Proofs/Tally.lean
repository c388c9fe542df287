import LoginGate.Attempt
import Mathlib.Data.List.Induction

/-! # Which counter an outcome moves

The four counters of a tally are read by name, and an outcome moves the one that its reason names.
So each counter holds the number of outcomes that move it, as long as it has room for that number.
-/

namespace LoginGate.Tally

inductive Counter where
  | admitted
  | deniedByRule
  | deniedByLimit
  | internalErrors
  deriving DecidableEq, Repr

/-- The counter for a reason to deny, or for none. -/
def Counter.of : Option DenyReason → Counter
  | none => admitted
  | some .rule => deniedByRule
  | some (.limit _) => deniedByLimit
  | some .internal => internalErrors

theorem Counter.of_eq_iff {reason : Option DenyReason} :
    (of reason = admitted ↔ reason = none) ∧
      (of reason = deniedByRule ↔ reason = some .rule) ∧
      (of reason = deniedByLimit ↔
        reason ∈ [some (.limit .login), some (.limit .password), some (.limit .address)]) ∧
      (of reason = internalErrors ↔ reason = some .internal) := by
  rcases reason with _ | _ | ⟨_ | _ | _⟩ | _ <;> simp [of]

def read (tally : Tally) : Counter → Nat
  | .admitted => tally.admitted
  | .deniedByRule => tally.deniedByRule
  | .deniedByLimit => tally.deniedByLimit
  | .internalErrors => tally.internalErrors

/-- An outcome moves the counter of its reason by one and no other. -/
theorem read_record (tally : Tally) (outcome : Outcome) (counter : Counter) :
    (tally.record outcome).read counter =
      if counter = .of outcome.reason then (tally.read counter + 1) % UInt64.size
      else tally.read counter := by
  rw [record]
  split <;> next reason => rw [reason]; cases counter <;> rfl

theorem record_congr (tally : Tally) {outcome other : Outcome}
    (same : outcome.reason = other.reason) : tally.record outcome = tally.record other := by
  rw [record, record, same]

/-! ## Many outcomes -/

/-- A counter that starts at zero has counted, around in 64 bits, the outcomes that move it. -/
theorem read_foldl_record (outcomes : List Outcome) (counter : Counter) :
    (outcomes.foldl record {}).read counter =
      outcomes.countP (Counter.of ·.reason = counter) % UInt64.size := by
  induction outcomes using List.reverseRecOn with
  | nil => cases counter <;> rfl
  | append_singleton earlier outcome ih =>
    rw [List.foldl_append, List.foldl_cons, List.foldl_nil, read_record, ih, List.countP_append,
      List.countP_singleton]
    by_cases moved : Counter.of outcome.reason = counter
    · rw [if_pos moved.symm, if_pos (decide_eq_true moved), Nat.mod_add_mod]
    · rw [if_neg (Ne.symm moved), if_neg (by simpa using moved), Nat.add_zero]

/-- Every outcome moves one of the four counters. -/
theorem sum_countP (outcomes : List Outcome) :
    outcomes.countP (Counter.of ·.reason = .admitted) +
      outcomes.countP (Counter.of ·.reason = .deniedByRule) +
      outcomes.countP (Counter.of ·.reason = .deniedByLimit) +
      outcomes.countP (Counter.of ·.reason = .internalErrors) = outcomes.length := by
  induction outcomes with
  | nil => rfl
  | cons outcome rest ih =>
    simp only [List.countP_cons, List.length_cons, decide_eq_true_eq]
    cases Counter.of outcome.reason <;> simp <;> omega

/-! ## The total -/

/-- Adding the counters one after the other is adding them all and stopping at the top. -/
theorem total_eq (tally : Tally) :
    tally.total =
      min (tally.admitted + tally.deniedByRule + tally.deniedByLimit + tally.internalErrors)
        (UInt64.size - 1) := by
  simp only [total, sum]
  omega

/-- A total is never below a counter that fits into 64 bits. -/
theorem admitted_le_total {tally : Tally} (fits : tally.admitted < UInt64.size) :
    tally.admitted ≤ tally.total := by
  rw [total_eq]
  omega

end LoginGate.Tally
