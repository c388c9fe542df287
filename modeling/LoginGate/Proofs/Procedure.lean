import LoginGate.Procedure

/-! # Traces and results of procedures

A procedure run against a party that answers leaves a trace: the questions that it asked, in order.
What it computes may be of a certain kind whatever the answers are (`Yields`), or as long as the
answers can be relied on (`Keeps`). Two procedures may keep side by side (`Beside`).
-/

namespace LoginGate.Procedure

section

variable {Call : Type} {Answer : Call → Type} {α β σ : Type}

/-- The questions that a procedure asks when a party answers from a state. -/
def calls (answer : (call : Call) → σ → Answer call × σ) : Procedure Answer α → σ → List Call
  | done _, _ => []
  | ask call next, state =>
    call :: calls answer (next (answer call state).1) (answer call state).2

variable {answer : (call : Call) → σ → Answer call × σ}

@[simp]
theorem calls_done (value : α) (state : σ) :
    calls answer (done value : Procedure Answer α) state = [] := rfl

@[simp]
theorem calls_ask (call : Call) (next : Answer call → Procedure Answer α) (state : σ) :
    calls answer (ask call next) state =
      call :: calls answer (next (answer call state).1) (answer call state).2 := rfl

/-- A procedure that computes a value of some kind, whatever the answers are. -/
inductive Yields (kind : α → Prop) : Procedure Answer α → Prop
  /-- The value is of that kind. -/
  | done {value : α} (sound : kind value) : Yields kind (done value)
  /-- So it is for every answer. -/
  | ask {call : Call} {next : Answer call → Procedure Answer α}
    (rest : ∀ reply, Yields kind (next reply)) : Yields kind (ask call next)

theorem Yields.run {kind : α → Prop} {procedure : Procedure Answer α}
    (yields : Yields kind procedure) (state : σ) : kind (procedure.run answer state).1 := by
  induction yields generalizing state with
  | done sound => exact sound
  | ask rest ih => exact ih _ _

/-- A procedure that keeps to some questions, as long as the answers are ones that it may rely on,
and computes a value of some kind from them. -/
inductive Keeps (asks : Call → Prop) (relies : (call : Call) → Answer call → Prop)
    (kind : α → Prop) : Procedure Answer α → Prop
  /-- The value is of that kind. -/
  | done {value : α} (sound : kind value) : Keeps asks relies kind (done value)
  /-- The question is a proper one, and so it goes on for every answer that may be relied on. -/
  | ask {call : Call} {next : Answer call → Procedure Answer α} (proper : asks call)
    (rest : ∀ reply, relies call reply → Keeps asks relies kind (next reply)) :
    Keeps asks relies kind (ask call next)

namespace Keeps

variable {asks : Call → Prop} {relies : (call : Call) → Answer call → Prop} {kind : α → Prop}
  {procedure : Procedure Answer α}

/-- A party that answers proper questions reliably is told a value of the kind. -/
theorem run (keeps : Keeps asks relies kind procedure)
    (reliable : ∀ call state, asks call → relies call (answer call state).1) (state : σ) :
    kind (procedure.run answer state).1 := by
  induction keeps generalizing state with
  | done sound => exact sound
  | ask proper rest ih => exact ih _ (reliable _ _ proper) _

/-- Such a party is asked proper questions only. -/
theorem asks_of_mem_calls (keeps : Keeps asks relies kind procedure)
    (reliable : ∀ call state, asks call → relies call (answer call state).1) (state : σ) :
    ∀ call ∈ procedure.calls answer state, asks call := by
  induction keeps generalizing state with
  | done sound => exact List.forall_mem_nil _
  | ask proper rest ih =>
    rw [calls_ask, List.forall_mem_cons]
    exact ⟨proper, ih _ (reliable _ _ proper) _⟩

/-- A procedure that relies on nothing computes a value of the kind in any case. -/
theorem yields (keeps : Keeps asks relies kind procedure) (all : ∀ call reply, relies call reply) :
    Yields kind procedure := by
  induction keeps with
  | done sound => exact .done sound
  | ask _ _ ih => exact .ask fun reply => ih reply (all _ reply)

end Keeps

end

/-! ## Procedures side by side

Two procedures are run against two parties. They keep side by side if each question of the one is
linked to a question of the other, whatever linked replies both have heard so far, and if they end
with values that belong together. Then so do the values that two parties are told in the end which
answer linked questions with linked replies.
-/

section

variable {Call Call' : Type} {Answer : Call → Type} {Answer' : Call' → Type} {α α' σ σ' : Type}

/-- Which questions are linked, each with what makes the replies to them linked. -/
@[reducible]
def Links (Answer : Call → Type) (Answer' : Call' → Type) : Type :=
  (call : Call) → (call' : Call') → (Answer call → Answer' call' → Prop) → Prop

/-- Two procedures that ask linked questions for as long as they hear linked replies, and compute
values that belong together. -/
inductive Beside (links : Links Answer Answer') (values : α → α' → Prop) :
    Procedure Answer α → Procedure Answer' α' → Prop
  /-- Both are done, with values that belong together. -/
  | done {value : α} {value' : α'} (together : values value value') :
    Beside links values (done value) (done value')
  /-- Both ask, and go on side by side after all linked replies. -/
  | ask {call : Call} {call' : Call'} {replies : Answer call → Answer' call' → Prop}
    {next : Answer call → Procedure Answer α} {next' : Answer' call' → Procedure Answer' α'}
    (linked : links call call' replies)
    (rest : ∀ reply reply', replies reply reply' → Beside links values (next reply) (next' reply')) :
    Beside links values (ask call next) (ask call' next')

/-- Two parties whose states belong together give linked replies to linked questions, and their
states belong together afterwards. -/
def Agree (links : Links Answer Answer') (states : σ → σ' → Prop)
    (answer : (call : Call) → σ → Answer call × σ)
    (answer' : (call' : Call') → σ' → Answer' call' × σ') : Prop :=
  ∀ call call' replies, links call call' replies → ∀ state state', states state state' →
    replies (answer call state).1 (answer' call' state').1 ∧
      states (answer call state).2 (answer' call' state').2

variable {links : Links Answer Answer'} {values : α → α' → Prop} {states : σ → σ' → Prop}
  {answer : (call : Call) → σ → Answer call × σ}
  {answer' : (call' : Call') → σ' → Answer' call' × σ'}

/-- Run against parties that agree, procedures side by side compute values that belong together. -/
theorem Beside.run {procedure : Procedure Answer α} {procedure' : Procedure Answer' α'}
    (beside : Beside links values procedure procedure') (agree : Agree links states answer answer')
    (state : σ) (state' : σ') (together : states state state') :
    values (procedure.run answer state).1 (procedure'.run answer' state').1 ∧
      states (procedure.run answer state).2 (procedure'.run answer' state').2 := by
  induction beside generalizing state state' with
  | done values => exact ⟨values, together⟩
  | ask linked rest ih =>
    obtain ⟨replies, together⟩ := agree _ _ _ linked _ _ together
    exact ih _ _ replies _ _ together

end

end LoginGate.Procedure
