import LoginGate.Proofs.RuleBook.Effect
import LoginGate.RuleStore

/-! # What failing calls do to the rule book

A task on the rules ends as soon as a call fails, with that failure and no other; and it fails like
that only if a call did. What it says of the rules themselves, it says after a search that succeeded.
-/

namespace LoginGate

theorem MemoryStore.exists_answer (call : RuleCall) (store : MemoryStore) :
    ∃ value, (RuleStore.answer call store).1 = .ok value := by
  cases call <;> exact ⟨_, rfl⟩

namespace UnreliableStore

variable {σ : Type}

/-- One of the calls made between two states is planned to fail. -/
def FailsUntil (store after : UnreliableStore σ) : Prop :=
  ∃ call, store.calls ≤ call ∧ call < after.calls ∧ store.plan call ≠ none

theorem not_failsUntil_self (store : UnreliableStore σ) : ¬ store.FailsUntil store :=
  fun ⟨_, asked, notYet, _⟩ => Nat.not_lt_of_le asked notYet

variable {store : UnreliableStore σ}

/-- A call that does not fail need not be looked at. -/
theorem failsUntil_iff_of_none (planned : store.plan store.calls = none) (inner : σ)
    (after : UnreliableStore σ) :
    store.FailsUntil after ↔
      { store with inner, calls := store.calls + 1 : UnreliableStore σ }.FailsUntil after := by
  refine exists_congr fun call => and_congr_left fun ⟨_, fails⟩ => ⟨fun asked => ?_, Nat.le_of_lt⟩
  have other : store.calls ≠ call := fun same => fails (same ▸ planned)
  exact Nat.lt_of_le_of_ne asked other

variable [RuleStore σ]

theorem answer_of_some {fault : StoreFault} (planned : store.plan store.calls = some fault)
    (call : RuleCall) :
    RuleStore.answer call store = (.error fault, { store with calls := store.calls + 1 }) := by
  simp only [RuleStore.answer, planned]

theorem answer_of_none (planned : store.plan store.calls = none) (call : RuleCall) :
    RuleStore.answer call store =
      ((RuleStore.answer call store.inner).1,
        { store with inner := (RuleStore.answer call store.inner).2, calls := store.calls + 1 }) := by
  simp only [RuleStore.answer, planned]

/-- A search that succeeds goes through the rules in memory. -/
theorem search_of_none {store : UnreliableStore MemoryStore}
    (planned : store.plan store.calls = none) (filter : Filter) :
    RuleStore.answer (.search filter) store =
      (.ok (store.inner.search filter), { store with calls := store.calls + 1 }) :=
  answer_of_none planned _

end UnreliableStore

namespace RuleBook

open Procedure

variable {α : Type}

/-- A task that passes on the failure of a call, and fails by itself only in some ways. -/
inductive Relays (own : RuleFault → Prop) : Task α → Prop
  | done {result : Except RuleFault α} (sound : ∀ fault, result = .error fault → own fault) :
    Relays own (.done result)
  | ask {call : RuleCall} {next : call.Answer → Task α}
    (passed : ∀ fault, next (.error fault) = .done (.error (.store fault)))
    (rest : ∀ value, Relays own (next (.ok value))) : Relays own (.ask call next)

/-- Listing rules fails in no way of its own. -/
theorem relays_list (filter : Filter) : Relays (fun _ => False) (list filter) :=
  .ask (fun _ => rfl) fun _ => .done nofun

/-- Adding fails by itself only because the range is listed. -/
theorem relays_add {listing : Listing} (listed : listing.verdict.isListed = true) :
    Relays (· = .duplicate listing.network) (add listing) := by
  rw [add, if_pos listed]
  refine .ask (fun _ => rfl) fun found => ?_
  cases found with
  | nil => exact .ask (fun _ => rfl) fun _ => .done fun _ same => by cases same
  | cons rule others => exact .done fun fault same => (Except.error.inj same).symm

theorem relays_delete {listing : Listing} (listed : listing.verdict.isListed = true) :
    Relays (· = .missing listing.verdict listing.network) (delete listing) := by
  rw [delete, find, if_pos listed]
  refine .ask (fun _ => rfl) fun found => ?_
  cases found with
  | nil => exact .done fun fault same => (Except.error.inj same).symm
  | cons rule others => exact .ask (fun _ => rfl) fun _ => .done fun _ same => by cases same

/-- What a task comes to: it fails with the store if one of its calls fails, and else it succeeds or
fails in a way of its own. -/
theorem Relays.run {own : RuleFault → Prop} {task : Task α} (relays : Relays own task)
    (store : UnreliableStore MemoryStore) :
    let ran := task.run RuleStore.answer store
    (store.FailsUntil ran.2 ∧ ∃ fault, ran.1 = .error (.store fault)) ∨
      ¬ store.FailsUntil ran.2 ∧
        ((∃ value, ran.1 = .ok value) ∨ ∃ fault, own fault ∧ ran.1 = .error fault) := by
  induction relays generalizing store with
  | @done result sound =>
    refine .inr ⟨store.not_failsUntil_self, ?_⟩
    cases result with
    | ok value => exact .inl ⟨value, rfl⟩
    | error fault => exact .inr ⟨fault, sound fault rfl, rfl⟩
  | @ask call next passed rest ih =>
    rw [run_ask]
    cases planned : store.plan store.calls with
    | some fault =>
      rw [UnreliableStore.answer_of_some planned, passed, run_done]
      exact .inl ⟨⟨store.calls, Nat.le_refl _, Nat.lt_succ_self _, by simp [planned]⟩, fault, rfl⟩
    | none =>
      obtain ⟨value, answered⟩ := store.inner.exists_answer call
      rw [UnreliableStore.answer_of_none planned, answered]
      intro ran
      rw [UnreliableStore.failsUntil_iff_of_none planned (RuleStore.answer call store.inner).2]
      exact ih value _

variable (store : UnreliableStore MemoryStore) {listing : Listing}

/-- A range counts as listed when a search succeeds and a rule has it. -/
theorem run_add_eq_duplicate_iff (listed : listing.verdict.isListed = true) :
    ((add listing).run RuleStore.answer store).1 = .error (.duplicate listing.network) ↔
      store.plan store.calls = none ∧ ∃ rule ∈ store.inner.rules, rule.network = listing.network := by
  rw [add, if_pos listed, run_ask]
  cases planned : store.plan store.calls with
  | some fault =>
    rw [UnreliableStore.answer_of_some planned, run_done]
    simp
  | none =>
    have free : store.inner.search (.exactly listing.network) = [] ↔
        ¬ ∃ rule ∈ store.inner.rules, rule.network = listing.network := by
      simp only [search_eq_nil_iff, Filter.selects_exactly_iff, not_exists, not_and]
    rw [UnreliableStore.search_of_none planned, and_iff_right rfl]
    cases found : store.inner.search (.exactly listing.network) with
    | nil =>
      refine iff_of_false (fun same => ?_) (free.mp found)
      simp only [run_ask] at same
      split at same <;> cases same
    | cons rule others =>
      have taken := mt free.mpr (by simp [found])
      exact iff_of_true rfl (not_not.mp taken)

/-- A listing counts as missing when a search succeeds and no rule lists the same. -/
theorem run_delete_eq_missing_iff (listed : listing.verdict.isListed = true) :
    ((delete listing).run RuleStore.answer store).1 =
        .error (.missing listing.verdict listing.network) ↔
      store.plan store.calls = none ∧ ∀ rule ∈ store.inner.rules, rule.listing ≠ listing := by
  rw [delete, find, if_pos listed, run_bind, run_ask]
  cases planned : store.plan store.calls with
  | some fault =>
    rw [UnreliableStore.answer_of_some planned, run_done, run_done]
    simp
  | none =>
    have absent : store.inner.search (.ofListing listing) = [] ↔
        ∀ rule ∈ store.inner.rules, rule.listing ≠ listing := by
      simp only [search_eq_nil_iff, Filter.selects_ofListing_iff, ne_eq]
    rw [UnreliableStore.search_of_none planned, and_iff_right rfl]
    cases found : store.inner.search (.ofListing listing) with
    | nil => exact iff_of_true rfl (absent.mp found)
    | cons rule others =>
      refine iff_of_false (fun same => ?_) (mt absent.mpr (by simp [found]))
      simp only [run_ask, run_done] at same
      split at same <;> cases same

end RuleBook
end LoginGate
