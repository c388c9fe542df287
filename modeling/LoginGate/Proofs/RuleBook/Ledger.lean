import LoginGate.Proofs.Network.Coverage
import LoginGate.Proofs.RuleBook.Effect
import Mathlib.Data.List.Nodup
import Mathlib.Logic.Function.Basic

/-! # Rules as a map from ranges

Seen from outside, the rules are a map from ranges to verdicts. A ledger is that map, with the whole
rule at each range, kept by somebody who sees the changes that are asked for and the rules that are
told in reply. A store of rules agrees with the ledger as long as its identities are fresh.
-/

namespace LoginGate

/-- The rule on record for each range. -/
@[reducible]
def Ledger : Type :=
  Network → Option Rule

namespace Ledger

/-- Nothing is on record. -/
def blank : Ledger :=
  fun _ => none

/-- The verdict that a range is listed under. -/
def verdict? (ledger : Ledger) (network : Network) : Option Verdict :=
  (ledger network).map Rule.verdict

/-- The ledger after a change was asked for and a rule was told in reply. A range that is listed is
not listed again, and what is not listed with a verdict is not deleted with it. -/
def after (ledger : Ledger) (told : Option Rule) : RuleBook.Change → Ledger
  | .add listing =>
    if ledger.verdict? listing.network = none then Function.update ledger listing.network told
    else ledger
  | .delete listing =>
    if ledger.verdict? listing.network = some listing.verdict then
      Function.update ledger listing.network none
    else ledger

/-- A range that is listed under the verdict has the address in it. -/
def Lists (ledger : Ledger) (verdict : Verdict) (address : Address) : Prop :=
  ∃ network, ledger.verdict? network = some verdict ∧ network.Names address

end Ledger

/-- A listing that can be asked for: its verdict is one of a rule, and its range is named by its
first address. -/
structure Listing.Proper (listing : Listing) : Prop where
  listed : listing.verdict.isListed = true
  masked : listing.network.masked = listing.network

theorem Listing.proper_of_parse {verdict network : String} {listing : Listing}
    (read : Listing.parse verdict network = .ok listing) : listing.Proper := by
  obtain ⟨listed, range⟩ := Listing.parse_eq_ok_iff.mp read
  obtain ⟨-, spelled, -, masked⟩ := Network.parse_eq_ok_iff.mp range
  exact ⟨Verdict.isListed_of_parse listed, by rw [masked, Network.masked_masked]⟩

namespace MemoryStore

/-- The identities drawn so far and the next one are all different. -/
def Fresh (store : MemoryStore) : Prop :=
  ((List.range (store.drawn + 1)).map store.supply).Nodup

instance (store : MemoryStore) : Decidable store.Fresh :=
  inferInstanceAs (Decidable (List.Nodup _))

/-- The rules of a store are the ones on record. -/
structure Agrees (store : MemoryStore) (ledger : Ledger) : Prop where
  mem_iff : ∀ rule, rule ∈ store.rules ↔ ledger rule.network = some rule
  network_eq : ∀ network rule, ledger network = some rule → rule.network = network
  proper : ∀ rule ∈ store.rules, rule.listing.Proper
  drawn : ∀ rule ∈ store.rules, ∃ index < store.drawn, rule.id = store.supply index

theorem Fresh.supply_ne {store : MemoryStore} (fresh : store.Fresh) {index : Nat}
    (before : index < store.drawn) : store.supply index ≠ store.supply store.drawn := by
  rw [Fresh, List.range_succ, List.map_append, List.nodup_append] at fresh
  exact fresh.2.2 _ (List.mem_map_of_mem (List.mem_range.mpr before)) _ (List.mem_singleton_self _)

/-- The later store draws from the same supply, and has drawn as much or more. -/
structure DrawsOn (earlier later : MemoryStore) : Prop where
  supply : later.supply = earlier.supply
  drawn : earlier.drawn ≤ later.drawn

theorem DrawsOn.refl (store : MemoryStore) : store.DrawsOn store :=
  ⟨rfl, Nat.le_refl _⟩

theorem DrawsOn.trans {first second third : MemoryStore} (before : first.DrawsOn second)
    (after : second.DrawsOn third) : first.DrawsOn third :=
  ⟨after.supply.trans before.supply, Nat.le_trans before.drawn after.drawn⟩

/-- No procedure takes an identity back. -/
theorem drawsOn_run {α : Type} (task : Procedure RuleCall.Answer α) (store : MemoryStore) :
    store.DrawsOn (task.run RuleStore.answer store).2 := by
  induction task generalizing store with
  | done value => exact .refl store
  | ask call next ih =>
    refine DrawsOn.trans ?_ (ih _ _)
    cases call with
    | add listing => exact ⟨rfl, Nat.le_succ _⟩
    | delete listing => exact ⟨rfl, Nat.le_refl _⟩
    | search filter => exact .refl store

/-- Identities that are fresh later were fresh before. -/
theorem Fresh.of_drawsOn {earlier later : MemoryStore} (fresh : later.Fresh)
    (draws : earlier.DrawsOn later) : earlier.Fresh := by
  rw [Fresh, draws.supply] at fresh
  exact fresh.sublist ((List.range_sublist.mpr (Nat.succ_le_succ draws.drawn)).map _)

namespace Agrees

variable {store : MemoryStore} {ledger : Ledger} {listing : Listing}

theorem empty (now : Timestamp) (supply : Nat → RuleId) :
    (MemoryStore.empty now supply).Agrees .blank :=
  ⟨fun _ => ⟨nofun, nofun⟩, fun _ _ => nofun, List.forall_mem_nil _, List.forall_mem_nil _⟩

theorem at_time (agrees : store.Agrees ledger) (now : Timestamp) :
    { store with now }.Agrees ledger :=
  ⟨agrees.mem_iff, agrees.network_eq, agrees.proper, agrees.drawn⟩

/-- No rule has a range that is not on record. -/
theorem network_ne (agrees : store.Agrees ledger) {network : Network}
    (free : ledger network = none) : ∀ rule ∈ store.rules, rule.network ≠ network := by
  intro rule member same
  have recorded := (agrees.mem_iff rule).mp member
  rw [same, free] at recorded
  cases recorded

/-- What is on record for a range is a rule for it. -/
theorem mem_of_eq (agrees : store.Agrees ledger) {network : Network} {rule : Rule}
    (recorded : ledger network = some rule) : rule ∈ store.rules ∧ rule.network = network := by
  have same := agrees.network_eq network rule recorded
  rw [← same] at recorded
  exact ⟨(agrees.mem_iff rule).mpr recorded, same⟩

/-- A listing is there when its range is on record with its verdict. -/
theorem exists_listing_iff (agrees : store.Agrees ledger) (listing : Listing) :
    (∃ rule ∈ store.rules, rule.listing = listing) ↔
      ledger.verdict? listing.network = some listing.verdict := by
  rw [Ledger.verdict?, Option.map_eq_some_iff]
  constructor
  · rintro ⟨rule, member, rfl⟩
    exact ⟨rule, (agrees.mem_iff rule).mp member, rfl⟩
  · rintro ⟨rule, recorded, verdict⟩
    obtain ⟨member, network⟩ := agrees.mem_of_eq recorded
    exact ⟨rule, member, by rw [Rule.listing, verdict, network]⟩

theorem nodup_networks (agrees : store.Agrees ledger) (filter : Filter) :
    ((store.search filter).map (·.network)).Nodup := by
  refine (store.nodup_search filter).map_on fun first found second other same => ?_
  have recorded := (agrees.mem_iff first).mp ((store.mem_search_iff filter first).mp found).1
  have also := (agrees.mem_iff second).mp ((store.mem_search_iff filter second).mp other).1
  rw [same, also] at recorded
  exact (Option.some.inj recorded).symm

/-- A rule that is added is put on record. -/
theorem add (agrees : store.Agrees ledger) (fresh : store.Fresh) (proper : listing.Proper)
    (free : ledger listing.network = none) :
    (store.add listing).Agrees
      (Function.update ledger listing.network (some (store.stamped listing))) := by
  have kept (rule : Rule) : rule ∈ (store.add listing).rules ↔
      rule ∈ store.rules ∨ rule = store.stamped listing := by
    rw [store.mem_add_iff]
    refine or_congr_left (and_iff_left_of_imp fun member => ?_)
    obtain ⟨index, before, same⟩ := agrees.drawn rule member
    exact same ▸ fresh.supply_ne before
  refine ⟨fun rule => ?_, fun network rule recorded => ?_, fun rule member => ?_,
    fun rule member => ?_⟩
  · rw [kept]
    by_cases same : rule.network = listing.network
    · rw [same, Function.update_self, Option.some_inj]
      exact ⟨fun either => (either.resolve_left (agrees.network_ne free rule · same)).symm,
        fun new => .inr new.symm⟩
    · rw [Function.update_of_ne same, agrees.mem_iff]
      exact or_iff_left fun new => same (new ▸ rfl)
  · by_cases same : network = listing.network
    · rw [same, Function.update_self] at recorded
      rw [same, ← Option.some.inj recorded]
      rfl
    · rw [Function.update_of_ne same] at recorded
      exact agrees.network_eq network rule recorded
  · rcases (kept rule).mp member with held | rfl
    · exact agrees.proper rule held
    · exact proper
  · rcases (kept rule).mp member with held | rfl
    · obtain ⟨index, before, same⟩ := agrees.drawn rule held
      exact ⟨index, Nat.lt_succ_of_lt before, same⟩
    · exact ⟨store.drawn, Nat.lt_succ_self _, rfl⟩

theorem delete (agrees : store.Agrees ledger)
    (present : ledger.verdict? listing.network = some listing.verdict) :
    (store.delete listing).Agrees (Function.update ledger listing.network none) := by
  have held {rule : Rule} (member : rule ∈ (store.delete listing).rules) : rule ∈ store.rules :=
    ((store.mem_delete_iff listing rule).mp member).1
  refine ⟨fun rule => ?_, fun network rule recorded => ?_,
    fun rule member => agrees.proper rule (held member),
    fun rule member => agrees.drawn rule (held member)⟩
  · rw [store.mem_delete_iff, agrees.mem_iff]
    by_cases same : rule.network = listing.network
    · -- The only rule for the range is the deleted one.
      rw [same, Function.update_self]
      refine iff_of_false (fun ⟨recorded, differs⟩ => differs ?_) nofun
      rw [Ledger.verdict?, recorded] at present
      rw [Rule.listing, same, Option.some.inj present]
    · rw [Function.update_of_ne same]
      exact and_iff_left fun lists => same (lists ▸ rfl)
  · by_cases same : network = listing.network
    · rw [same, Function.update_self] at recorded
      cases recorded
    · rw [Function.update_of_ne same] at recorded
      exact agrees.network_eq network rule recorded

end Agrees
end MemoryStore
end LoginGate
