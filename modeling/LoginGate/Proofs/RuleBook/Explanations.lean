import LoginGate.Proofs.Procedure
import LoginGate.RuleBook
import LoginGate.RuleStore

/-! # How failures are explained

A store that fails explains why. Two stores may behave alike but for these explanations: they answer
the same calls, and with the same values. The tasks of the rule book do not look at an explanation,
so over such stores they take the same course and have the same results, except that a failure of the
store is passed on with its explanation.
-/

namespace LoginGate

open Procedure

/-- The same reply, or two failures whatever their explanations. -/
inductive SameReply {α : Type} : Except StoreFault α → Except StoreFault α → Prop
  | value (value : α) : SameReply (.ok value) (.ok value)
  | failure (fault fault' : StoreFault) : SameReply (.error fault) (.error fault')

theorem SameReply.refl {α : Type} (reply : Except StoreFault α) : SameReply reply reply := by
  cases reply with
  | ok value => exact .value value
  | error fault => exact .failure fault fault

/-- Every call is linked to itself. -/
inductive RuleCall.Linked : Links RuleCall.Answer RuleCall.Answer
  | same (call : RuleCall) : Linked call call SameReply

namespace RuleStore

variable {σ τ : Type} [RuleStore σ] [RuleStore τ]

/-- Two stores whose states belong together behave alike, but for the explanations of failures. -/
def Alike (states : σ → τ → Prop) : Prop :=
  Agree RuleCall.Linked states answer answer

theorem alike_eq : Alike (Eq : σ → σ → Prop) := by
  rintro _ _ _ ⟨call⟩ store _ rfl
  exact ⟨.refl _, rfl⟩

end RuleStore

namespace UnreliableStore

variable {σ : Type}

/-- Stores with the same rules behind plans for the same calls to fail. -/
structure FailsWith (store store' : UnreliableStore σ) : Prop where
  inner : store.inner = store'.inner
  calls : store.calls = store'.calls
  plan : ∀ call, (store.plan call).isSome = (store'.plan call).isSome

/-- What is behind the plans is asked the same calls, as long as the same calls are planned to
fail. -/
theorem alike_failsWith [RuleStore σ] : RuleStore.Alike (@FailsWith σ) := by
  rintro _ _ _ ⟨call⟩ store store' ⟨inner, calls, plan⟩
  have here := plan store'.calls
  cases planned : store.plan store'.calls with
  | none =>
    have planned' : store'.plan store'.calls = none := by simpa [planned] using here
    simp only [RuleStore.answer, inner, calls, planned, planned']
    exact ⟨.refl _, rfl, rfl, plan⟩
  | some fault =>
    obtain ⟨fault', planned'⟩ : ∃ fault', store'.plan store'.calls = some fault' :=
      Option.isSome_iff_exists.mp (by simpa [planned] using here)
    simp only [RuleStore.answer, inner, calls, planned, planned']
    exact ⟨.failure fault fault', rfl, rfl, plan⟩

end UnreliableStore

namespace RuleBook

/-- The same result, or two failures of the store whatever their explanations. -/
inductive SameResult {α : Type} : Except RuleFault α → Except RuleFault α → Prop
  | same (result : Except RuleFault α) : SameResult result result
  | store (fault fault' : StoreFault) : SameResult (.error (.store fault)) (.error (.store fault'))

/-- The task takes the same course over stores that behave alike. -/
@[reducible]
def Discreet {α : Type} (task : Task α) : Prop :=
  Beside RuleCall.Linked SameResult task task

theorem discreet_list (filter : Filter) : Discreet (list filter) := by
  refine .ask (.same _) fun _ _ replies => ?_
  cases replies with
  | value rules => exact .done (.same _)
  | failure fault fault' => exact .done (.store fault fault')

theorem discreet_add (listing : Listing) : Discreet (add listing) := by
  rw [Discreet, add]
  split
  · refine .ask (.same _) fun _ _ replies => ?_
    cases replies with
    | failure fault fault' => exact .done (.store fault fault')
    | value rules =>
      cases rules with
      | cons rule others => exact .done (.same _)
      | nil =>
        refine .ask (.same _) fun _ _ replies => ?_
        cases replies with
        | value rule => exact .done (.same _)
        | failure fault fault' => exact .done (.store fault fault')
  · exact .done (.same _)

theorem discreet_delete (listing : Listing) : Discreet (delete listing) := by
  rw [Discreet, delete, find]
  split
  · refine .ask (.same _) fun _ _ replies => ?_
    cases replies with
    | failure fault fault' => exact .done (.store fault fault')
    | value rules =>
      cases rules with
      | nil => exact .done (.same _)
      | cons rule others =>
        refine .ask (.same _) fun _ _ replies => ?_
        cases replies with
        | value done => exact .done (.same _)
        | failure fault fault' => exact .done (.store fault fault')
  · exact .done (.same _)

end RuleBook
end LoginGate
