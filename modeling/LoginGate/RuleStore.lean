import LoginGate.InputError
import LoginGate.Procedure
import LoginGate.Rule

/-! # Rule stores

A rule store answers three kinds of call, and may fail to answer any of them. A call that fails has
no effect on the rules.
-/

namespace LoginGate

/-- Why a store did not answer. -/
inductive StoreFault where
  /-- What is stored cannot be turned into a rule. -/
  | invalidRow (detail : String)
  /-- The store cannot be reached, or any other failure. -/
  | unavailable (detail : String)
  deriving DecidableEq, Repr

def StoreFault.message : StoreFault → String
  | invalidRow detail => s!"invalid stored rule: {detail}"
  | unavailable detail => s!"rule store unavailable: {detail}"

/-- A call to a rule store. -/
inductive RuleCall where
  /-- Stores a new rule; the store gives it its identity and its time. -/
  | add (listing : Listing)
  /-- Removes every rule of a listing, if there is one. -/
  | delete (listing : Listing)
  /-- Finds all rules that a filter selects. -/
  | search (filter : Filter)
  deriving DecidableEq, Repr

namespace RuleCall

@[reducible]
def Value : RuleCall → Type
  | add _ => Rule
  | delete _ => Unit
  | search _ => List Rule

@[reducible]
def Answer (call : RuleCall) : Type :=
  Except StoreFault call.Value

end RuleCall

/-- States of a rule store. -/
class RuleStore (σ : Type) where
  answer : (call : RuleCall) → σ → call.Answer × σ

/-! ## Rules in memory

A store that keeps its rules in a list without two rules of one identity. Time and identities come
from outside: `now` stamps new rules, and identities are drawn in order from a supply.

A search for an identity looks that rule up directly; any other search goes through all rules.
-/

/-- Rules that live as long as the program. -/
structure MemoryStore where
  rules : List Rule
  distinct : (rules.map (·.id)).Nodup
  /-- The time that new rules are stamped with. -/
  now : Timestamp
  /-- The identities for new rules. -/
  supply : Nat → RuleId
  /-- How many identities have been drawn. -/
  drawn : Nat

namespace MemoryStore

def empty (now : Timestamp) (supply : Nat → RuleId) : MemoryStore :=
  ⟨[], List.nodup_nil, now, supply, 0⟩

def retain (store : MemoryStore) (keep : Rule → Bool) : MemoryStore :=
  { store with
    rules := store.rules.filter keep
    distinct := store.distinct.sublist (List.filter_sublist.map _) }

/-- Keeps a rule in place of any with its identity. -/
def insert (store : MemoryStore) (rule : Rule) : MemoryStore :=
  { store with
    rules := store.rules.filter (·.id != rule.id) ++ [rule]
    distinct := by
      rw [List.map_append, List.nodup_append]
      refine ⟨store.distinct.sublist (List.filter_sublist.map _), by simp, ?_⟩
      simp only [List.mem_map, List.mem_filter, bne_iff_ne, List.map_cons, List.map_nil,
        List.mem_singleton]
      rintro _ ⟨kept, ⟨_, differs⟩, rfl⟩ _ rfl
      exact differs }

/-- The rule that the next addition of a listing stores. -/
def stamped (store : MemoryStore) (listing : Listing) : Rule :=
  ⟨store.supply store.drawn, listing.verdict, listing.network, store.now⟩

def add (store : MemoryStore) (listing : Listing) : MemoryStore :=
  { store.insert (store.stamped listing) with drawn := store.drawn + 1 }

def delete (store : MemoryStore) (listing : Listing) : MemoryStore :=
  store.retain fun rule => !(Filter.ofListing listing).selects rule

/-- The rules among which a filter can select any. -/
def candidates (store : MemoryStore) (filter : Filter) : List Rule :=
  match filter.id with
  | some id => (store.rules.find? (·.id == id)).toList
  | none => store.rules

/-- The selected rules, by verdict and age. -/
def search (store : MemoryStore) (filter : Filter) : List Rule :=
  ((store.candidates filter).filter filter.selects).mergeSort Rule.atMost

instance : RuleStore MemoryStore where
  answer
    | .add listing, store => (.ok (store.stamped listing), store.add listing)
    | .delete listing, store => (.ok (), store.delete listing)
    | .search filter, store => (.ok (store.search filter), store)

theorem mem_delete_iff (store : MemoryStore) (listing : Listing) (rule : Rule) :
    rule ∈ (store.delete listing).rules ↔ rule ∈ store.rules ∧ rule.listing ≠ listing := by
  simp [delete, retain, ← Filter.selects_ofListing_iff]

/-- An addition keeps every rule of another identity and stores one rule more. -/
theorem mem_add_iff (store : MemoryStore) (listing : Listing) (rule : Rule) :
    rule ∈ (store.add listing).rules ↔
      rule ∈ store.rules ∧ rule.id ≠ store.supply store.drawn ∨ rule = store.stamped listing := by
  simp [add, insert, stamped]

end MemoryStore

/-! ## Stores that fail

A store of which some calls fail, by a plan that says for each call whether it fails and how.
-/

/-- A store with a plan of failures. -/
structure UnreliableStore (σ : Type) where
  inner : σ
  /-- How each call fails, by its number counted from zero, if it does. -/
  plan : Nat → Option StoreFault
  /-- The calls made so far. -/
  calls : Nat := 0

namespace UnreliableStore

variable {σ : Type}

/-- A store that never fails. -/
def reliable (inner : σ) : UnreliableStore σ :=
  { inner, plan := fun _ => none }

/-- A store of which every call fails in the same way. -/
def offline (inner : σ) (fault : StoreFault) : UnreliableStore σ :=
  { inner, plan := fun _ => some fault }

instance [RuleStore σ] : RuleStore (UnreliableStore σ) where
  answer call store :=
    match store.plan store.calls with
    | some fault => (.error fault, { store with calls := store.calls + 1 })
    | none =>
      let (reply, inner) := RuleStore.answer call store.inner
      (reply, { store with inner, calls := store.calls + 1 })

end UnreliableStore
end LoginGate
