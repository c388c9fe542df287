/-! # Procedures

A procedure asks questions of a party it does not know and goes on with the answers. It can be run
against any party that answers from a state (`Procedure.run`), and several procedures can take turns
asking the same party, one question at a time.
-/

namespace LoginGate

/-- A computation of an `α` that asks questions from `Call` on the way. -/
inductive Procedure {Call : Type} (Answer : Call → Type) (α : Type) where
  /-- Nothing is left to ask. -/
  | done (value : α)
  /-- One question, and what follows for each answer. -/
  | ask (call : Call) (next : Answer call → Procedure Answer α)

namespace Procedure

variable {Call : Type} {Answer : Call → Type} {α β σ : Type}

def bind (first : Procedure Answer α) (next : α → Procedure Answer β) : Procedure Answer β :=
  match first with
  | done value => next value
  | ask call rest => ask call fun answer => (rest answer).bind next

def map (f : α → β) (procedure : Procedure Answer α) : Procedure Answer β :=
  procedure.bind fun value => done (f value)

/-- Asks the same questions among a larger set of them. -/
def embed {Wider : Type} {WiderAnswer : Wider → Type} (wider : Call → Wider)
    (back : ∀ call, WiderAnswer (wider call) → Answer call) :
    Procedure Answer α → Procedure WiderAnswer α
  | done value => done value
  | ask call next => ask (wider call) fun answer => embed wider back (next (back call answer))

/-- What a procedure computes when a party answers, and the state it leaves the party in. -/
def run (answer : (call : Call) → σ → Answer call × σ) :
    Procedure Answer α → σ → α × σ
  | done value, state => (value, state)
  | ask call next, state =>
    let (reply, state) := answer call state
    run answer (next reply) state

variable {answer : (call : Call) → σ → Answer call × σ}

@[simp]
theorem run_done (value : α) (state : σ) :
    run answer (done value : Procedure Answer α) state = (value, state) := rfl

@[simp]
theorem run_ask (call : Call) (next : Answer call → Procedure Answer α) (state : σ) :
    run answer (ask call next) state =
      run answer (next (answer call state).1) (answer call state).2 := rfl

theorem run_bind (first : Procedure Answer α) (next : α → Procedure Answer β) (state : σ) :
    run answer (first.bind next) state =
      run answer (next (run answer first state).1) (run answer first state).2 := by
  induction first generalizing state with
  | done value => rfl
  | ask call rest ih => exact ih _ _

theorem run_map (f : α → β) (procedure : Procedure Answer α) (state : σ) :
    run answer (procedure.map f) state =
      (f (run answer procedure state).1, (run answer procedure state).2) := by
  rw [map, run_bind, run_done]

end Procedure
end LoginGate
