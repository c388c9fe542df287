import LoginGate.Proofs.Procedure
import Mathlib.Algebra.BigOperators.Group.Finset.Piecewise
import Mathlib.Data.Fintype.Basic
import Mathlib.Logic.Function.Basic

/-! # Procedures that take turns

Several procedures ask one party, one question at a time and in any order. What happens can be seen
from two sides. Each procedure hears the answers to its own questions and goes on from them, whoever
asks in between (`Crew.leads_run`); and the party answers one question after the other, whoever asks
them (`Crew.serves_run`). So a fact about all orders follows from a fact about the paths of one
procedure and a fact about the history of the party.
-/

namespace LoginGate

variable {Call ι ε α σ : Type} {Answer : Call → Type}

/-- A question, and the answer to it. -/
@[reducible]
def Exchange (Answer : Call → Type) : Type :=
  (call : Call) × Answer call

/-- A question that somebody asks at some moment, and the answer to it. -/
structure Turn (Answer : Call → Type) (ι ε : Type) where
  who : ι
  moment : ε
  call : Call
  reply : Answer call

/-- What is asked and answered, whoever asks. -/
def Turn.exchange (turn : Turn Answer ι ε) : Exchange Answer :=
  ⟨turn.call, turn.reply⟩

@[simp]
theorem Turn.exchange_mk (who : ι) (moment : ε) (call : Call) (reply : Answer call) :
    (Turn.mk who moment call reply).exchange = ⟨call, reply⟩ := rfl

/-! ## Paths of a procedure -/

namespace Procedure

/-- Some questions and the answers to them lead from one procedure to what is left of it. -/
inductive Leads : Procedure Answer α → List (Exchange Answer) → Procedure Answer α → Prop
  | refl (procedure : Procedure Answer α) : Leads procedure [] procedure
  | ask {call : Call} {next : Answer call → Procedure Answer α} {reply : Answer call}
    {rest : List (Exchange Answer)} {last : Procedure Answer α}
    (path : Leads (next reply) rest last) : Leads (ask call next) (⟨call, reply⟩ :: rest) last

variable {first last : Procedure Answer α} {path : List (Exchange Answer)}

@[simp]
theorem leads_done_iff {value : α} :
    Leads (done value) path last ↔ path = [] ∧ last = done value := by
  constructor
  · rintro ⟨⟩
    exact ⟨rfl, rfl⟩
  · rintro ⟨rfl, rfl⟩
    exact .refl _

/-- A path begins with the question that is asked first, unless it has no question at all. -/
theorem leads_ask_iff {call : Call} {next : Answer call → Procedure Answer α} :
    Leads (ask call next) path last ↔
      path = [] ∧ last = ask call next ∨
        ∃ reply rest, path = ⟨call, reply⟩ :: rest ∧ Leads (next reply) rest last := by
  constructor
  · intro leads
    cases leads with
    | refl => exact .inl ⟨rfl, rfl⟩
    | ask path => exact .inr ⟨_, _, rfl, path⟩
  · rintro (⟨rfl, rfl⟩ | ⟨reply, rest, rfl, path⟩)
    · exact .refl _
    · exact .ask path

/-- What a procedure has computed, once nothing is left to ask. -/
def result? : Procedure Answer α → Option α
  | done value => some value
  | ask _ _ => none

theorem result?_eq_some_iff {procedure : Procedure Answer α} {value : α} :
    procedure.result? = some value ↔ procedure = done value := by
  cases procedure with
  | done other => rw [result?, Option.some_inj, done.injEq]
  | ask call next => exact ⟨nofun, nofun⟩

/-- A path is cut at any of its questions. -/
theorem Leads.cut {before later : List (Exchange Answer)} {call : Call} {reply : Answer call}
    (leads : Leads first (before ++ ⟨call, reply⟩ :: later) last) :
    ∃ next, Leads first before (Procedure.ask call next) ∧ Leads (next reply) later last := by
  induction before generalizing first with
  | nil =>
    cases leads with
    | ask path => exact ⟨_, .refl _, path⟩
  | cons head before ih =>
    cases leads with
    | ask path =>
      obtain ⟨next, early, late⟩ := ih path
      exact ⟨next, .ask early, late⟩

/-- A procedure that keeps to some questions does so on every path of reliable answers. -/
theorem Keeps.of_leads {asks : Call → Prop} {relies : (call : Call) → Answer call → Prop}
    {kind : α → Prop} (keeps : Keeps asks relies kind first) (leads : Leads first path last)
    (reliable : ∀ exchange ∈ path, relies exchange.1 exchange.2) :
    (∀ exchange ∈ path, asks exchange.1) ∧ Keeps asks relies kind last := by
  induction leads with
  | refl => exact ⟨List.forall_mem_nil _, keeps⟩
  | ask path ih =>
    obtain ⟨relied, reliable⟩ := List.forall_mem_cons.mp reliable
    cases keeps with
    | ask proper rest =>
      obtain ⟨later, kept⟩ := ih (rest _ relied) reliable
      exact ⟨List.forall_mem_cons.mpr ⟨proper, later⟩, kept⟩

end Procedure

open Procedure

/-! ## Histories of a party -/

/-- A party answers questions in order, from one state to another. -/
inductive Serves (answer : ε → (call : Call) → σ → Answer call × σ) :
    σ → List (Turn Answer ι ε) → σ → Prop
  | refl (state : σ) : Serves answer state [] state
  | turn {state final : σ} {rest : List (Turn Answer ι ε)} {who : ι} {moment : ε} {call : Call}
    (later : Serves answer (answer moment call state).2 rest final) :
    Serves answer state (⟨who, moment, call, (answer moment call state).1⟩ :: rest) final

/-! ## Crews -/

/-- Procedures that take turns, and the state of the party that answers them. -/
structure Crew (Answer : Call → Type) (ι α σ : Type) where
  tasks : ι → Procedure Answer α
  state : σ

/-- What one of those who take turns asks and hears. -/
def heard [DecidableEq ι] (who : ι) (turns : List (Turn Answer ι ε)) : List (Exchange Answer) :=
  (turns.filter (·.who = who)).map Turn.exchange

section

variable [DecidableEq ι] (who : ι) (turn : Turn Answer ι ε) (turns rest : List (Turn Answer ι ε))

theorem heard_append : heard who (turns ++ rest) = heard who turns ++ heard who rest := by
  rw [heard, List.filter_append, List.map_append, ← heard, ← heard]

theorem heard_cons_of_eq {who : ι} (own : turn.who = who) :
    heard who (turn :: rest) = turn.exchange :: heard who rest := by
  rw [heard, List.filter_cons_of_pos (by simpa using own), List.map_cons, ← heard]

theorem heard_cons_of_ne {who : ι} (other : turn.who ≠ who) :
    heard who (turn :: rest) = heard who rest := by
  rw [heard, List.filter_cons_of_neg (by simpa using other), ← heard]

variable {who turns}

theorem mem_heard_iff {exchange : Exchange Answer} :
    exchange ∈ heard who turns ↔ ∃ turn ∈ turns, turn.who = who ∧ turn.exchange = exchange := by
  simp only [heard, List.mem_map, List.mem_filter, decide_eq_true_eq, and_assoc]

/-- Every turn is heard by one. -/
theorem sum_countP_heard [Fintype ι] (counts : Exchange Answer → Bool)
    (turns : List (Turn Answer ι ε)) :
    ∑ who, (heard who turns).countP counts =
      turns.countP fun turn => counts turn.exchange := by
  induction turns with
  | nil => exact Finset.sum_const_zero
  | cons turn rest ih =>
    have share (who : ι) : (heard who (turn :: rest)).countP counts =
        (heard who rest).countP counts +
          if turn.who = who then if counts turn.exchange then 1 else 0 else 0 := by
      by_cases own : turn.who = who
      · rw [heard_cons_of_eq _ _ own, List.countP_cons, if_pos own]
      · rw [heard_cons_of_ne _ _ own, if_neg own, Nat.add_zero]
    rw [Finset.sum_congr rfl fun who _ => share who, Finset.sum_add_distrib, ih,
      Finset.sum_ite_eq, if_pos (Finset.mem_univ _), List.countP_cons]

end

namespace Crew

variable [DecidableEq ι] (answer : ε → (call : Call) → σ → Answer call × σ)

/-- The turn of one procedure, unless it is done. -/
def turn? (crew : Crew Answer ι α σ) (slot : ε × ι) : Option (Turn Answer ι ε) :=
  match crew.tasks slot.2 with
  | .done _ => none
  | .ask call _ => some ⟨slot.2, slot.1, call, (answer slot.1 call crew.state).1⟩

/-- The crew after the turn of one procedure. -/
def after (crew : Crew Answer ι α σ) (slot : ε × ι) : Crew Answer ι α σ :=
  match crew.tasks slot.2 with
  | .done _ => crew
  | .ask call next =>
    let (reply, state) := answer slot.1 call crew.state
    ⟨Function.update crew.tasks slot.2 (next reply), state⟩

def run (crew : Crew Answer ι α σ) (slots : List (ε × ι)) : Crew Answer ι α σ :=
  slots.foldl (after answer) crew

def turns (crew : Crew Answer ι α σ) : List (ε × ι) → List (Turn Answer ι ε)
  | [] => []
  | slot :: rest => (crew.turn? answer slot).toList ++ turns (crew.after answer slot) rest

/-- Each procedure goes on from the answers that it hears, whoever asks in between. -/
theorem leads_run (crew : Crew Answer ι α σ) (slots : List (ε × ι)) (who : ι) :
    Leads (crew.tasks who) (heard who (crew.turns answer slots))
      ((crew.run answer slots).tasks who) := by
  induction slots generalizing crew with
  | nil => exact .refl _
  | cons slot rest ih =>
    have later := ih (crew.after answer slot)
    rw [turns, run, List.foldl_cons]
    cases task : crew.tasks slot.2 with
    | done value =>
      have same : crew.after answer slot = crew := by simp only [after, task]
      rw [same] at later ⊢
      rwa [turn?, task, Option.toList_none, List.nil_append]
    | ask call next =>
      have updated : (crew.after answer slot).tasks =
          Function.update crew.tasks slot.2 (next (answer slot.1 call crew.state).1) := by
        simp only [after, task]
      rw [updated] at later
      simp only [turn?, task, Option.toList_some, List.singleton_append]
      by_cases own : slot.2 = who
      · rw [heard_cons_of_eq _ _ own]
        subst own
        rw [Function.update_self] at later
        rw [task]
        exact .ask later
      · rw [Function.update_of_ne (Ne.symm own)] at later
        rw [heard_cons_of_ne _ _ own]
        exact later

/-- The party answers the turns one after the other, whoever takes them. -/
theorem serves_run (crew : Crew Answer ι α σ) (slots : List (ε × ι)) :
    Serves answer crew.state (crew.turns answer slots) (crew.run answer slots).state := by
  induction slots generalizing crew with
  | nil => exact .refl _
  | cons slot rest ih =>
    have later := ih (crew.after answer slot)
    rw [turns, run, List.foldl_cons]
    cases task : crew.tasks slot.2 with
    | done value =>
      have same : crew.after answer slot = crew := by simp only [after, task]
      rw [same] at later ⊢
      rwa [turn?, task, Option.toList_none, List.nil_append]
    | ask call next =>
      have state : (crew.after answer slot).state = (answer slot.1 call crew.state).2 := by
        simp only [after, task]
      rw [state] at later
      simp only [turn?, task]
      exact .turn later

variable {answer}

/-- What is asked at a turn follows from what the asker has heard before. -/
theorem leads_turn {crew : Crew Answer ι α σ} {slots : List (ε × ι)} {turn : Turn Answer ι ε}
    {before later : List (Turn Answer ι ε)}
    (taken : crew.turns answer slots = before ++ turn :: later) :
    ∃ next, Leads (crew.tasks turn.who) (heard turn.who before) (ask turn.call next) := by
  have leads := crew.leads_run answer slots turn.who
  rw [taken, heard_append, heard_cons_of_eq _ _ rfl] at leads
  obtain ⟨next, early, -⟩ := leads.cut
  exact ⟨next, early⟩

end Crew
end LoginGate
