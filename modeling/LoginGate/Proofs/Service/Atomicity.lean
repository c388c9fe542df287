import LoginGate.Proofs.RuleBook.Atomicity
import LoginGate.Proofs.Service.Meaning
import LoginGate.Registry

/-! # Failed requests

A request that is answered with a failure has changed nothing: not the rules, not a bucket, not the
settings and not the tally. What a request asks of the rules is a task that writes last, and nothing
else that can fail comes after a change.
-/

namespace LoginGate

namespace Gate

variable {σ β : Type} [RuleStore σ] [LawfulStore σ]

/-- Rules, limiter, settings and tally are the same as before. -/
structure SameAs (before after : Gate σ β) : Prop where
  rules : LawfulStore.rules after.store = LawfulStore.rules before.store
  limiter : after.limiter = before.limiter
  window : after.window = before.window
  limits : after.limits = before.limits
  tally : after.tally = before.tally

theorem SameAs.refl (gate : Gate σ β) : SameAs gate gate :=
  ⟨rfl, rfl, rfl, rfl, rfl⟩

/-- A task that writes last changes nothing when it fails. -/
theorem sameAs_onRules [AtomicStore σ] (gate : Gate σ β) {α : Type} {task : RuleBook.Task α}
    (last : RuleBook.WritesLast task) {fault : RuleFault}
    (failed : (gate.onRules task).1 = .error fault) : SameAs gate (gate.onRules task).2 :=
  ⟨last.rules_run gate.store failed, rfl, rfl, rfl, rfl⟩

end Gate

namespace Service

open Gate

variable {σ β : Type} [RuleStore σ] [LawfulStore σ]

/-- What is answered with a failure has failed, if success is told as success. -/
private theorem exists_error_of_respond {ε α : Type} {failure : ε → Response}
    {success : α → Response} (succeeds : ∀ value, (success value).ok = true)
    {result : Except ε α} (refused : (respond failure success result).ok = false) :
    ∃ fault, result = .error fault := by
  cases result with
  | error fault => exact ⟨fault, rfl⟩
  | ok value =>
    rw [respond, succeeds value] at refused
    cases refused

variable [AtomicStore σ]

private theorem sameAs_of_respond (gate : Gate σ β) {α : Type} {task : RuleBook.Task α}
    (last : RuleBook.WritesLast task) {success : α → Response}
    (succeeds : ∀ value, (success value).ok = true)
    (refused : (respond ruleFailure success (gate.onRules task).1).ok = false) :
    SameAs gate (gate.onRules task).2 := by
  obtain ⟨fault, failed⟩ := exists_error_of_respond succeeds refused
  exact sameAs_onRules gate last failed

variable [Limiter β]

/-- What is carried out and fails changes nothing; only the rules can fail. -/
theorem sameAs_carryOut (gate : Gate σ β) (meaning : Meaning)
    (refused : (carryOut gate meaning).1.ok = false) : SameAs gate (carryOut gate meaning).2 := by
  cases meaning with
  | check attempt => cases refused
  | reset key => cases refused
  | add listing =>
    exact sameAs_of_respond gate (RuleBook.writesLast_add listing) (fun _ => rfl) refused
  | delete listing =>
    exact sameAs_of_respond gate (RuleBook.writesLast_delete listing) (fun _ => rfl) refused
  | list verdict =>
    cases verdict with
    | none => exact sameAs_of_respond gate (RuleBook.writesLast_list _) (fun _ => rfl) refused
    | some verdict =>
      exact sameAs_of_respond gate (RuleBook.writesLast_list _) (fun _ => rfl) refused

theorem sameAs_handle (gate : Gate σ β) (request : Request)
    (refused : (handle gate request).1.ok = false) : SameAs gate (handle gate request).2 := by
  cases read : request.meaning with
  | error error =>
    rw [handle_of_error read]
    exact .refl gate
  | ok meaning =>
    rw [handle_of_meaning read] at refused ⊢
    exact sameAs_carryOut gate meaning refused

/-- A line that is answered with a failure changes nothing: neither the rules nor a bucket, nor the
window for new buckets, nor a counter of the tally. It does not matter what the line is, nor which
calls to the store fail, as long as a call that fails has no effect of its own. -/
theorem handleLine_unchanged_of_failure (gate : Gate σ β) (line : String)
    (refused : (handleLine gate line).1.ok = false) :
    let after := (handleLine gate line).2
    LawfulStore.rules after.store = LawfulStore.rules gate.store ∧ after.limiter = gate.limiter ∧
      after.window = gate.window ∧ after.limits = gate.limits ∧ after.tally = gate.tally := by
  intro after
  have same : SameAs gate after := by
    rw [handleLine] at refused
    change SameAs gate (handleLine gate line).2
    rw [handleLine]
    cases decoded : decode line with
    | error fault => exact .refl gate
    | ok request =>
      rw [decoded] at refused
      exact sameAs_handle gate request refused
  exact ⟨same.rules, same.limiter, same.window, same.limits, same.tally⟩

/-- A range that is looked for with success and then fails to be stored is not listed. -/
theorem handleLine_unchanged_of_second_call :
    let wide : Network := ⟨⟨.v4, 0x0A00_0000, by decide⟩, 8, by decide⟩
    let gate : Gate (UnreliableStore MemoryStore) Registry :=
      { store :=
          { inner := (MemoryStore.empty ⟨0, 0⟩ RuleId.ofNat).add ⟨.deny, wide⟩
            plan := fun call => if call = 1 then some (.unavailable "full") else none }
        limiter := .empty
        window := ⟨100, by decide, by decide⟩
        limits := {} }
    let line := "[\"add_rule\",\"allow\",\"10.1.0.0/16\"]"
    (handleLine gate line).1 = .failure .internal (some 3001) "internal error" ∧
      (handleLine gate line).2.store.calls = 2 ∧
      LawfulStore.rules (handleLine gate line).2.store = LawfulStore.rules gate.store := by
  intro wide gate line
  have told : (handleLine gate line).1 = .failure .internal (some 3001) "internal error" := by
    decide +kernel
  have refused : (handleLine gate line).1.ok = false := by
    rw [told]
    rfl
  exact ⟨told, by decide +kernel, (handleLine_unchanged_of_failure gate line refused).1⟩

end Service
end LoginGate
