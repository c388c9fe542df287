import LoginGate.Proofs.Gate.Lists
import LoginGate.Proofs.RuleBook.Explanations

/-! # Gates side by side

Two gates with the same settings judge attempts from the same address. Their stores behave alike, and
their limiters count alike, where a hit on a key of the one attempt stands for a hit on a key of the
other. Then both attempts are admitted, or both are denied for the same reason.
-/

namespace LoginGate

open Procedure

/-- A call to the store is linked to itself, and a hit to one on a linked key against the same
limits. -/
inductive GateCall.Linked (keys : String → String → Prop) : Links GateCall.Answer GateCall.Answer
  | rules (call : RuleCall) : Linked keys (.rules call) (.rules call) SameReply
  | hit {key key' : String} (limits : Limits) (linked : keys key key') :
    Linked keys (.hit key limits) (.hit key' limits) Eq

/-- Two attempts from one address, with linked keys. -/
structure Attempt.Linked (keys : String → String → Prop) (attempt attempt' : Attempt) : Prop where
  address : attempt.address = attempt'.address
  keys : ∀ aspect, keys (attempt.key aspect) (attempt'.key aspect)

theorem Attempt.Linked.refl (attempt : Attempt) : Linked Eq attempt attempt :=
  ⟨rfl, fun _ => rfl⟩

namespace Limiter

variable {β γ : Type} [Limiter β] [Limiter γ]

/-- Two limiters whose states belong together count hits on linked keys alike. -/
def Alike (keys : String → String → Prop) (limiters : β → γ → Prop) : Prop :=
  ∀ key key' limits limiter limiter', keys key key' → limiters limiter limiter' →
    (hit key limits limiter).1 = (hit key' limits limiter').1 ∧
      limiters (hit key limits limiter).2 (hit key' limits limiter').2

theorem alike_eq : Alike Eq (Eq : β → β → Prop) := by
  rintro key _ limits limiter _ rfl rfl
  exact ⟨rfl, rfl⟩

end Limiter

namespace Gate

variable {σ τ β γ : Type} {stores : σ → τ → Prop} {limiters : β → γ → Prop}
  {keys : String → String → Prop}

/-- Two gates with the same settings and the same tally, whose stores and limiters belong
together. -/
structure Beside (stores : σ → τ → Prop) (limiters : β → γ → Prop) (gate : Gate σ β)
    (gate' : Gate τ γ) : Prop where
  store : stores gate.store gate'.store
  limiter : limiters gate.limiter gate'.limiter
  window : gate.window = gate'.window
  limits : gate.limits = gate'.limits
  tally : gate.tally = gate'.tally

/-! ## Judgements -/

/-- The outcomes of two attempts, for one reason. -/
def SameReason (attempt attempt' : Attempt) (outcome outcome' : Outcome) : Prop :=
  ∃ reason, outcome = outcomeFor attempt reason ∧ outcome' = outcomeFor attempt' reason

section

variable {attempt attempt' : Attempt} {limits : AttemptLimits} {window : Window}

private theorem beside_measure (linked : attempt.Linked keys attempt') (aspects : List Aspect) :
    Procedure.Beside (GateCall.Linked keys) (SameReason attempt attempt')
      (measure limits window attempt aspects) (measure limits window attempt' aspects) := by
  induction aspects with
  | nil => exact .done ⟨none, rfl, rfl⟩
  | cons aspect rest ih =>
    rw [measure_cons, measure_cons]
    refine .ask (.hit _ (linked.keys aspect)) ?_
    rintro (fault | ⟨⟩ | ⟨⟩) _ rfl
    · exact .done ⟨_, rfl, rfl⟩
    · exact ih
    · exact .done ⟨_, rfl, rfl⟩

/-- Two attempts with linked keys are judged by linked calls, and for the same reason. -/
theorem beside_judge (linked : attempt.Linked keys attempt') :
    Procedure.Beside (GateCall.Linked keys) (SameReason attempt attempt')
      (judge limits window attempt) (judge limits window attempt') := by
  rw [judge_eq, judge_eq, ← linked.address]
  refine .ask (.rules _) fun _ _ replies => ?_
  cases replies with
  | failure fault fault' => exact .done ⟨_, rfl, rfl⟩
  | value found =>
    rw [proceed, proceed]
    cases RuleBook.weigh found with
    | allow => exact .done ⟨none, rfl, rfl⟩
    | deny => exact .done ⟨_, rfl, rfl⟩
    | unlisted => exact beside_measure linked _

end

variable [RuleStore σ] [RuleStore τ] [Limiter β] [Limiter γ]

private theorem agree_answer (store : RuleStore.Alike stores)
    (limiter : Limiter.Alike keys limiters) :
    Agree (GateCall.Linked keys)
      (fun state state' => stores state.1 state'.1 ∧ limiters state.2 state'.2) answer answer := by
  rintro _ _ _ linked state state' ⟨together, counted⟩
  cases linked with
  | rules call =>
    obtain ⟨replies, together⟩ := store _ _ _ (.same call) _ _ together
    exact ⟨replies, together, counted⟩
  | hit limits linked =>
    obtain ⟨same, counted⟩ := limiter _ _ limits _ _ linked counted
    exact ⟨same, together, counted⟩

variable {gate : Gate σ β} {gate' : Gate τ γ}

/-- Gates side by side judge linked attempts for the same reason, and stay side by side. -/
theorem Beside.check (beside : gate.Beside stores limiters gate') (store : RuleStore.Alike stores)
    (limiter : Limiter.Alike keys limiters) {attempt attempt' : Attempt}
    (linked : attempt.Linked keys attempt') :
    SameReason attempt attempt' (gate.check attempt).1 (gate'.check attempt').1 ∧
      (gate.check attempt).2.Beside stores limiters (gate'.check attempt').2 := by
  have judged : Procedure.Beside (GateCall.Linked keys) (SameReason attempt attempt')
      (judge gate.limits gate.window attempt) (judge gate'.limits gate'.window attempt') := by
    rw [← beside.limits, ← beside.window]
    exact beside_judge linked
  obtain ⟨⟨reason, outcome, outcome'⟩, together, counted⟩ :=
    judged.run (agree_answer store limiter) (gate.store, gate.limiter)
      (gate'.store, gate'.limiter) ⟨beside.store, beside.limiter⟩
  change (gate.check attempt).1 = _ at outcome
  change (gate'.check attempt').1 = _ at outcome'
  have reasons : (gate.check attempt).1.reason = (gate'.check attempt').1.reason := by
    rw [outcome, outcome', reason_outcomeFor, reason_outcomeFor]
  refine ⟨⟨reason, outcome, outcome'⟩, together, counted, beside.window, beside.limits, ?_⟩
  change gate.tally.record (gate.check attempt).1 = gate'.tally.record (gate'.check attempt').1
  rw [beside.tally, Tally.record_congr _ reasons]

omit [Limiter β] [Limiter γ] in
/-- Gates side by side carry out a task with the same result, if the task does not look at what a
store says about its failures. -/
theorem Beside.onRules (beside : gate.Beside stores limiters gate') (store : RuleStore.Alike stores)
    {α : Type} {task : RuleBook.Task α} (discreet : RuleBook.Discreet task) :
    RuleBook.SameResult (gate.onRules task).1 (gate'.onRules task).1 ∧
      (gate.onRules task).2.Beside stores limiters (gate'.onRules task).2 := by
  obtain ⟨same, together⟩ := discreet.run store _ _ beside.store
  exact ⟨same, together, beside.limiter, beside.window, beside.limits, beside.tally⟩

end Gate
end LoginGate
