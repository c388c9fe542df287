import LoginGate.Proofs.RuleStore.Lawful
import LoginGate.RuleBook

/-! # Tasks that write last

A task on the rules may ask the store several times, and any of its calls may fail. It looks first
and writes once: after a call that has changed the rules nothing is left that could fail. So a task
that fails has changed nothing, as long as a call that fails changes nothing.
-/

namespace LoginGate

/-- A store on which a call that fails leaves the rules as they are. -/
class AtomicStore (σ : Type) [RuleStore σ] [LawfulStore σ] : Prop where
  rules_of_error : ∀ (call : RuleCall) (store : σ) (fault : StoreFault),
    (RuleStore.answer call store).1 = .error fault →
      LawfulStore.rules (RuleStore.answer call store).2 = LawfulStore.rules store

/-- No call to a store in memory fails. -/
instance : AtomicStore MemoryStore where
  rules_of_error call store fault failed := by cases call <;> cases failed

/-- A planned failure does not reach the store behind. -/
instance {σ : Type} [RuleStore σ] [LawfulStore σ] [AtomicStore σ] :
    AtomicStore (UnreliableStore σ) where
  rules_of_error call store fault failed := by
    cases planned : store.plan store.calls with
    | some failure => simp only [RuleStore.answer, planned, LawfulStore.rules]
    | none =>
      simp only [RuleStore.answer, planned] at failed
      simp only [RuleStore.answer, planned, LawfulStore.rules]
      exact AtomicStore.rules_of_error call store.inner fault failed

namespace RuleBook

open Procedure

/-- A task that looks as often as it likes, and succeeds once it has written. -/
inductive WritesLast {α : Type} : Task α → Prop
  /-- Nothing is asked any more. -/
  | done (result : Except RuleFault α) : WritesLast (done result)
  /-- A search leaves everything open. -/
  | search {filter : Filter} {next : RuleCall.Answer (.search filter) → Task α}
    (rest : ∀ found, WritesLast (next found)) : WritesLast (ask (.search filter) next)
  /-- A call that may write is the last one, unless it fails. -/
  | write {call : RuleCall} {next : call.Answer → Task α}
    (written : ∀ value, ∃ result, next (.ok value) = done (.ok result))
    (failed : ∀ fault, WritesLast (next (.error fault))) : WritesLast (ask call next)

section

variable {σ : Type} [RuleStore σ] [LawfulStore σ] [AtomicStore σ] {α : Type} {task : Task α}

/-- A task that writes last and fails leaves the rules as they were. -/
theorem WritesLast.rules_run (last : WritesLast task) (store : σ) {fault : RuleFault}
    (failed : (task.run RuleStore.answer store).1 = .error fault) :
    LawfulStore.rules (task.run RuleStore.answer store).2 = LawfulStore.rules store := by
  induction last generalizing store with
  | done result => rfl
  | @search filter next rest ih =>
    rw [run_ask] at failed ⊢
    rw [ih _ _ failed, LawfulStore.rules_search]
  | @write call next written broken ih =>
    rw [run_ask] at failed ⊢
    cases answered : (RuleStore.answer call store).1 with
    | ok value =>
      -- What comes after a successful write cannot fail.
      obtain ⟨result, ends⟩ := written value
      rw [answered, ends, run_done] at failed
      cases failed
    | error problem =>
      rw [answered] at failed
      rw [ih problem _ failed]
      exact AtomicStore.rules_of_error call store problem answered

end

/-! ## The tasks of the rule book -/

theorem writesLast_list (filter : Filter) : WritesLast (list filter) := by
  apply WritesLast.search
  intro found
  cases found <;> exact .done _

theorem writesLast_add (listing : Listing) : WritesLast (add listing) := by
  rw [add]
  split
  · apply WritesLast.search
    rintro (fault | ⟨⟩ | ⟨rule, others⟩)
    · exact .done _
    · exact .write (fun rule => ⟨rule, rfl⟩) fun fault => .done _
    · exact .done _
  · exact .done _

theorem writesLast_delete (listing : Listing) : WritesLast (delete listing) := by
  rw [delete, find]
  split
  · apply WritesLast.search
    rintro (fault | ⟨⟩ | ⟨rule, others⟩)
    · exact .done _
    · exact .done _
    · exact .write (fun _ => ⟨(), rfl⟩) fun fault => .done _
  · exact .done _

end RuleBook
end LoginGate
