import LoginGate.Proofs.Gate.Beside
import LoginGate.Proofs.RuleStore.Lawful
import LoginGate.Proofs.Service.Meaning
import LoginGate.Registry
import LoginGate.Session

/-! # What clients are not told

A store that fails says why, and nothing of that reaches a client. Two services that differ only in
what their stores say about their failures give the same responses to the same lines, to the byte,
and do the same to the rules, the buckets and the tally.
-/

namespace LoginGate.Service

variable {σ τ β : Type}

/-- What happens to a service over time. -/
inductive Moment (σ β : Type) where
  | line (text : String)
  /-- Something other than a line changes the store and the limiter: time passes, say. -/
  | outside (store : σ → σ) (limiter : β → β)

/-- The same happens to two services, as far as it can be said of different stores. -/
inductive Moment.Alike (stores : σ → τ → Prop) : Moment σ β → Moment τ β → Prop
  | line (text : String) : Alike stores (.line text) (.line text)
  | outside {change : σ → σ} {change' : τ → τ}
    (together : ∀ store store', stores store store' → stores (change store) (change' store'))
    (limiter : β → β) : Alike stores (.outside change limiter) (.outside change' limiter)

section

variable [RuleStore σ] [Limiter β]

/-- The responses to the lines that come in over time, and the gate in the end. -/
def converse (gate : Gate σ β) : List (Moment σ β) → List Response × Gate σ β
  | [] => ([], gate)
  | .line text :: rest =>
    let (response, gate) := handleLine gate text
    let (responses, gate) := converse gate rest
    (response :: responses, gate)
  | .outside store limiter :: rest =>
    converse { gate with store := store gate.store, limiter := limiter gate.limiter } rest

end

/-! ## One request -/

/-- What a store says about a failure is not in the response. -/
private theorem respond_congr {α : Type} {result result' : Except RuleFault α}
    (same : RuleBook.SameResult result result') (success : α → Response) :
    respond ruleFailure success result = respond ruleFailure success result' := by
  cases same with
  | same => rfl
  | store fault fault' => rfl

variable {stores : σ → τ → Prop} [RuleStore σ] [RuleStore τ]
  {gate : Gate σ β} {gate' : Gate τ β}

/-- The response is the same, and the gates stay side by side. -/
private structure AnswersAlike (stores : σ → τ → Prop) (answer : Response × Gate σ β)
    (answer' : Response × Gate τ β) : Prop where
  response : answer.1 = answer'.1
  beside : answer.2.Beside stores Eq answer'.2

private theorem answersAlike_onRules (alike : RuleStore.Alike stores)
    (beside : gate.Beside stores Eq gate') {α : Type} {task : RuleBook.Task α}
    (discreet : RuleBook.Discreet task) (success : α → Response) :
    AnswersAlike stores
      (respond ruleFailure success (gate.onRules task).1, (gate.onRules task).2)
      (respond ruleFailure success (gate'.onRules task).1, (gate'.onRules task).2) := by
  obtain ⟨same, beside⟩ := beside.onRules alike discreet
  exact ⟨respond_congr same success, beside⟩

variable [Limiter β]

/-- What is asked is carried out alike, one constructor of what can be asked after the other. -/
private theorem answersAlike_carryOut (alike : RuleStore.Alike stores)
    (beside : gate.Beside stores Eq gate') (meaning : Meaning) :
    AnswersAlike stores (carryOut gate meaning) (carryOut gate' meaning) := by
  cases meaning with
  | check attempt =>
    obtain ⟨⟨reason, outcome, outcome'⟩, beside⟩ :=
      beside.check alike Limiter.alike_eq (.refl attempt)
    exact ⟨congrArg Response.ofOutcome (outcome.trans outcome'.symm), beside⟩
  | reset key =>
    obtain ⟨store, limiter, window, limits, tally⟩ := beside
    rw [carryOut, carryOut, Gate.resetKey, Gate.resetKey, limiter]
    exact ⟨rfl, store, rfl, window, limits, tally⟩
  | add listing => exact answersAlike_onRules alike beside (RuleBook.discreet_add listing) _
  | delete listing => exact answersAlike_onRules alike beside (RuleBook.discreet_delete listing) _
  | list verdict =>
    cases verdict with
    | none => exact answersAlike_onRules alike beside (RuleBook.discreet_list _) _
    | some verdict => exact answersAlike_onRules alike beside (RuleBook.discreet_list _) _

private theorem answersAlike_handleLine (alike : RuleStore.Alike stores)
    (beside : gate.Beside stores Eq gate') (line : String) :
    AnswersAlike stores (handleLine gate line) (handleLine gate' line) := by
  rw [handleLine, handleLine]
  cases decode line with
  | error fault => exact ⟨rfl, beside⟩
  | ok request =>
    change AnswersAlike stores (handle gate request) (handle gate' request)
    cases read : request.meaning with
    | error error =>
      rw [handle_of_error read, handle_of_error read]
      exact ⟨rfl, beside⟩
    | ok meaning =>
      rw [handle_of_meaning read, handle_of_meaning read]
      exact answersAlike_carryOut alike beside meaning

/-! ## All requests -/

private theorem converse_alike (alike : RuleStore.Alike stores)
    {moments : List (Moment σ β)} {moments' : List (Moment τ β)}
    (same : List.Forall₂ (Moment.Alike stores) moments moments')
    (beside : gate.Beside stores Eq gate') :
    (converse gate moments).1 = (converse gate' moments').1 ∧
      (converse gate moments).2.Beside stores Eq (converse gate' moments').2 := by
  induction same generalizing gate gate' with
  | nil => exact ⟨rfl, beside⟩
  | cons here _ ih =>
    cases here with
    | line text =>
      obtain ⟨response, beside⟩ := answersAlike_handleLine alike beside text
      obtain ⟨responses, beside⟩ := ih beside
      exact ⟨congrArg₂ List.cons response responses, beside⟩
    | outside together limiter =>
      exact ih ⟨together _ _ beside.store, congrArg limiter beside.limiter, beside.window,
        beside.limits, beside.tally⟩

/-- Two services start with the same settings, buckets and tally, over stores that behave alike
except for what they say about their failures. Then they give the same responses to the same lines,
to the byte, and end with the same rules, buckets and tally. -/
theorem converse_without_explanations [LawfulStore σ] [LawfulStore τ]
    (alike : RuleStore.Alike stores)
    (held : ∀ store store', stores store store' →
      LawfulStore.rules store = LawfulStore.rules store')
    {moments : List (Moment σ β)} {moments' : List (Moment τ β)}
    (same : List.Forall₂ (Moment.Alike stores) moments moments')
    (beside : gate.Beside stores Eq gate') :
    let said := converse gate moments
    let said' := converse gate' moments'
    said.1 = said'.1 ∧ said.1.flatMap Session.written = said'.1.flatMap Session.written ∧
      LawfulStore.rules said.2.store = LawfulStore.rules said'.2.store ∧
      said.2.limiter = said'.2.limiter ∧ said.2.tally = said'.2.tally ∧
      said.2.window = said'.2.window ∧ said.2.limits = said'.2.limits := by
  obtain ⟨responses, beside⟩ := converse_alike alike same beside
  exact ⟨responses, congrArg (List.flatMap Session.written) responses, held _ _ beside.store,
    beside.limiter, beside.tally, beside.window, beside.limits⟩

/-- The second call to the store, which is to store a rule, and the fourth, which is to look one up,
fail in two ways. The responses do not tell in which. -/
theorem converse_without_explanations_of_two_failures :
    let gate (fault : StoreFault) : Gate (UnreliableStore MemoryStore) Registry :=
      { store :=
          { inner := .empty ⟨0, 0⟩ RuleId.ofNat
            plan := fun call => if call = 1 ∨ call = 3 then some fault else none }
        limiter := .empty
        window := ⟨100, by decide, by decide⟩
        limits := {} }
    let moments : List (Moment (UnreliableStore MemoryStore) Registry) :=
      [.line "[\"add_rule\",\"deny\",\"10.0.0.0/8\"]", .outside id (Registry.advance · 250),
        .line "[\"check\",\"root\",\"guess\",\"10.0.0.1\"]",
        .line "[\"check\",\"root\",\"guess\",\"10.0.0.1\"]", .line "[\"list_rules\"]"]
    let said := converse (gate (.unavailable "10.0.0.5:5432 refused")) moments
    let said' := converse (gate (.invalidRow "id 7 has no network")) moments
    said.1 = [.failure .internal (some 3001) "internal error", .ofOutcome .grant,
        .ofOutcome (.deny .internal "service unavailable"), .ofRules []] ∧
      said.1.flatMap Session.written = said'.1.flatMap Session.written := by
  intro gate moments said said'
  have fails : (gate (.unavailable "10.0.0.5:5432 refused")).Beside UnreliableStore.FailsWith Eq
      (gate (.invalidRow "id 7 has no network")) := by
    refine ⟨⟨rfl, rfl, fun call => ?_⟩, rfl, rfl, rfl, rfl⟩
    by_cases planned : call = 1 ∨ call = 3 <;> simp [gate, planned]
  have same : List.Forall₂ (Moment.Alike UnreliableStore.FailsWith) moments moments :=
    .cons (.line _) <| .cons (.outside (fun _ _ together => together) _) <| .cons (.line _) <|
      .cons (.line _) <| .cons (.line _) .nil
  have untold := converse_without_explanations UnreliableStore.alike_failsWith
    (fun _ _ together => congrArg MemoryStore.rules together.inner) same fails
  have told : said.1 = [.failure .internal (some 3001) "internal error", .ofOutcome .grant,
      .ofOutcome (.deny .internal "service unavailable"), .ofRules []] := by
    decide +kernel
  exact ⟨told, untold.2.1⟩

end LoginGate.Service
