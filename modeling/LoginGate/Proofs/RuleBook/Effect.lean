import LoginGate.Proofs.RuleStore.Lawful
import LoginGate.RuleBook

/-! # What the rule book does to rules in memory

Rules in memory are always there, so whether a change is made depends on the rules alone: a range is
added unless a rule has it already, and a listing is deleted if it is there. A change that is not
made leaves the store as it is.
-/

namespace LoginGate.RuleBook

open Procedure

/-- A change to the rules that a caller asks for. -/
inductive Change where
  | add (listing : Listing)
  | delete (listing : Listing)
  deriving DecidableEq, Repr

/-- The store after a change that is asked for. -/
def perform (store : MemoryStore) : Change → MemoryStore
  | .add listing => ((add listing).run RuleStore.answer store).2
  | .delete listing => ((delete listing).run RuleStore.answer store).2

variable (store : MemoryStore) {filter : Filter} {listing : Listing}

theorem search_eq_nil_iff :
    store.search filter = [] ↔ ∀ rule ∈ store.rules, ¬ filter.selects rule = true := by
  simp only [List.eq_nil_iff_forall_not_mem, store.mem_search_iff, not_and]

theorem run_list (filter : Filter) :
    (list filter).run RuleStore.answer store = (.ok (store.search filter), store) := rfl

/-! ## Adding -/

theorem run_add_of_unlisted (unlisted : listing.verdict.isListed = false) :
    (add listing).run RuleStore.answer store = (.error (unlistable listing.verdict), store) := by
  rw [add, if_neg (by simp [unlisted]), run_done]

theorem run_add_of_mem (listed : listing.verdict.isListed = true) {rule : Rule}
    (member : rule ∈ store.rules) (same : rule.network = listing.network) :
    (add listing).run RuleStore.answer store =
      (.error (.duplicate listing.network), store) := by
  have found : store.search (.exactly listing.network) ≠ [] := fun nothing =>
    (search_eq_nil_iff store).mp nothing rule member ((Filter.selects_exactly_iff _ rule).mpr same)
  obtain ⟨first, rest, found⟩ := List.exists_cons_of_ne_nil found
  rw [add, if_pos listed, run_ask]
  simp only [RuleStore.answer, found, run_done]

theorem run_add_of_free (listed : listing.verdict.isListed = true)
    (free : ∀ rule ∈ store.rules, rule.network ≠ listing.network) :
    (add listing).run RuleStore.answer store = (.ok (store.stamped listing), store.add listing) := by
  have nothing : store.search (.exactly listing.network) = [] :=
    (search_eq_nil_iff store).mpr fun rule member selected =>
      free rule member ((Filter.selects_exactly_iff _ rule).mp selected)
  rw [add, if_pos listed, run_ask]
  simp only [RuleStore.answer, nothing, run_ask, run_done]

/-! ## Finding -/

theorem run_find_of_unlisted (unlisted : listing.verdict.isListed = false) :
    (find listing).run RuleStore.answer store = (.error (unlistable listing.verdict), store) := by
  rw [find, if_neg (by simp [unlisted]), run_done]

theorem run_find_of_mem (listed : listing.verdict.isListed = true) {rule : Rule}
    (member : rule ∈ store.rules) (same : rule.listing = listing) :
    ∃ found : Rule, found.listing = listing ∧
      (find listing).run RuleStore.answer store = (.ok found, store) := by
  have found : store.search (.ofListing listing) ≠ [] := fun nothing =>
    (search_eq_nil_iff store).mp nothing rule member
      ((Filter.selects_ofListing_iff listing rule).mpr same)
  obtain ⟨first, rest, found⟩ := List.exists_cons_of_ne_nil found
  have selected : first ∈ store.search (.ofListing listing) := found ▸ List.mem_cons_self
  refine ⟨first, (Filter.selects_ofListing_iff listing first).mp
    ((store.mem_search_iff _ first).mp selected).2, ?_⟩
  rw [find, if_pos listed, run_ask]
  simp only [RuleStore.answer, found, run_done]

theorem run_find_of_missing (listed : listing.verdict.isListed = true)
    (missing : ∀ rule ∈ store.rules, rule.listing ≠ listing) :
    (find listing).run RuleStore.answer store =
      (.error (.missing listing.verdict listing.network), store) := by
  have nothing : store.search (.ofListing listing) = [] :=
    (search_eq_nil_iff store).mpr fun rule member selected =>
      missing rule member ((Filter.selects_ofListing_iff listing rule).mp selected)
  rw [find, if_pos listed, run_ask]
  simp only [RuleStore.answer, nothing, run_done]

/-! ## Deleting -/

theorem run_delete_of_unlisted (unlisted : listing.verdict.isListed = false) :
    (delete listing).run RuleStore.answer store = (.error (unlistable listing.verdict), store) := by
  rw [delete, run_bind, run_find_of_unlisted store unlisted, run_done]

theorem run_delete_of_mem (listed : listing.verdict.isListed = true) {rule : Rule}
    (member : rule ∈ store.rules) (same : rule.listing = listing) :
    (delete listing).run RuleStore.answer store = (.ok (), store.delete listing) := by
  obtain ⟨found, lists, ran⟩ := run_find_of_mem store listed member same
  rw [delete, run_bind, ran, run_ask, lists]
  rfl

theorem run_delete_of_missing (listed : listing.verdict.isListed = true)
    (missing : ∀ rule ∈ store.rules, rule.listing ≠ listing) :
    (delete listing).run RuleStore.answer store =
      (.error (.missing listing.verdict listing.network), store) := by
  rw [delete, run_bind, run_find_of_missing store listed missing, run_done]

/-- A deletion is refused for its verdict, removes the listing, or finds no rule of it. -/
theorem delete_cases (listing : Listing) :
    (listing.verdict.isListed = false ∧
      (delete listing).run RuleStore.answer store = (.error (unlistable listing.verdict), store)) ∨
    (listing.verdict.isListed = true ∧ (∃ rule ∈ store.rules, rule.listing = listing) ∧
      (delete listing).run RuleStore.answer store = (.ok (), store.delete listing)) ∨
    (listing.verdict.isListed = true ∧ (∀ rule ∈ store.rules, rule.listing ≠ listing) ∧
      (delete listing).run RuleStore.answer store =
        (.error (.missing listing.verdict listing.network), store)) := by
  by_cases listed : listing.verdict.isListed = true
  · by_cases present : ∃ rule ∈ store.rules, rule.listing = listing
    · obtain ⟨rule, member, same⟩ := present
      exact .inr (.inl ⟨listed, ⟨rule, member, same⟩, run_delete_of_mem store listed member same⟩)
    · have missing : ∀ rule ∈ store.rules, rule.listing ≠ listing :=
        fun rule member same => present ⟨rule, member, same⟩
      exact .inr (.inr ⟨listed, missing, run_delete_of_missing store listed missing⟩)
  · have unlisted := Bool.eq_false_iff.mpr listed
    exact .inl ⟨unlisted, run_delete_of_unlisted store unlisted⟩

/-! ## Both -/

/-- A change adds a range that no rule has, deletes a listing, or does nothing. -/
theorem perform_cases (change : Change) :
    perform store change = store ∨
    (∃ listing, change = .add listing ∧ listing.verdict.isListed = true ∧
      (∀ rule ∈ store.rules, rule.network ≠ listing.network) ∧
      perform store change = store.add listing) ∨
    (∃ listing, change = .delete listing ∧ perform store change = store.delete listing) := by
  cases change with
  | add listing =>
    rw [perform]
    by_cases listed : listing.verdict.isListed = true
    · by_cases taken : ∃ rule ∈ store.rules, rule.network = listing.network
      · obtain ⟨rule, member, same⟩ := taken
        rw [run_add_of_mem store listed member same]
        exact .inl rfl
      · have free : ∀ rule ∈ store.rules, rule.network ≠ listing.network :=
          fun rule member same => taken ⟨rule, member, same⟩
        rw [run_add_of_free store listed free]
        exact .inr (.inl ⟨listing, rfl, listed, free, rfl⟩)
    · rw [run_add_of_unlisted store (Bool.eq_false_iff.mpr listed)]
      exact .inl rfl
  | delete listing =>
    rw [perform]
    rcases delete_cases store listing with ⟨-, ran⟩ | ⟨-, -, ran⟩ | ⟨-, -, ran⟩
    · exact .inl (congrArg Prod.snd ran)
    · exact .inr (.inr ⟨listing, rfl, congrArg Prod.snd ran⟩)
    · exact .inl (congrArg Prod.snd ran)

end LoginGate.RuleBook
