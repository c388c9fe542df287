import LoginGate.Proofs.Network.Coverage
import LoginGate.Proofs.RuleBook.Effect
import Mathlib.Data.Finset.Dedup

/-! # What the lists say about an address

The rules are two lists of ranges. An address on the allow list is allowed, whatever else covers it;
an address on the deny list alone is denied. A rule that carries neither verdict is on neither list.
So all that matters is what is listed: not in which order, not how often, and not under which
identity or since when.
-/

namespace LoginGate

instance (network : Network) (address : Address) : Decidable (network.Names address) :=
  inferInstanceAs (Decidable (_ ∧ _))

namespace RuleBook

def Lists (rules : List Rule) (verdict : Verdict) (address : Address) : Prop :=
  ∃ rule ∈ rules, rule.verdict = verdict ∧ rule.network.Names address

instance (rules : List Rule) (verdict : Verdict) (address : Address) :
    Decidable (Lists rules verdict address) :=
  inferInstanceAs (Decidable (∃ rule ∈ rules, _))

/-- The verdict of the two lists: to be allowed outweighs to be denied. -/
def ruling (rules : List Rule) (address : Address) : Verdict :=
  if Lists rules .allow address then .allow
  else if Lists rules .deny address then .deny
  else .unlisted

/-- What is listed, in whatever order and however often. -/
def listings (rules : List Rule) : Finset Listing :=
  (rules.map Rule.listing).toFinset

/-- Whether an address is on a list depends on what is listed only. -/
theorem lists_iff_mem_listings (rules : List Rule) (verdict : Verdict) (address : Address) :
    Lists rules verdict address ↔
      ∃ network, ⟨verdict, network⟩ ∈ listings rules ∧ network.Names address := by
  simp only [listings, List.mem_toFinset, List.mem_map]
  constructor
  · rintro ⟨rule, member, rfl, names⟩
    exact ⟨rule.network, ⟨rule, member, rfl⟩, names⟩
  · rintro ⟨_, ⟨rule, member, ⟨⟩⟩, names⟩
    exact ⟨rule, member, rfl, names⟩

theorem ruling_eq_of_listings {rules others : List Rule} (same : listings rules = listings others)
    (address : Address) : ruling rules address = ruling others address := by
  have lists (verdict : Verdict) :
      Lists rules verdict address ↔ Lists others verdict address := by
    rw [lists_iff_mem_listings, lists_iff_mem_listings, same]
  simp only [ruling, lists]

section

variable (store : MemoryStore) (address : Address)

theorem mem_search_containing_iff (rule : Rule) :
    rule ∈ store.search (.containing address) ↔
      rule ∈ store.rules ∧ rule.network.Names address := by
  rw [store.mem_search_iff, Filter.selects_containing, Network.covers_iff_names]

/-- One of them has a verdict when the address is listed under it. -/
theorem exists_search_containing_iff (verdict : Verdict) :
    (∃ rule ∈ store.search (.containing address), rule.verdict = verdict) ↔
      Lists store.rules verdict address := by
  simp only [mem_search_containing_iff]
  exact ⟨fun ⟨rule, ⟨member, names⟩, same⟩ => ⟨rule, member, same, names⟩,
    fun ⟨rule, member, same, names⟩ => ⟨rule, ⟨member, names⟩, same⟩⟩

/-- What is found for an address weighs as much as the two lists. -/
theorem weigh_search_containing :
    weigh (store.search (.containing address)) = ruling store.rules address := by
  have allow_iff := weigh_eq_allow_iff (store.search (.containing address))
  have deny_iff := weigh_eq_deny_iff (store.search (.containing address))
  simp only [exists_search_containing_iff] at allow_iff deny_iff
  rw [ruling]
  split
  · next allowed => exact allow_iff.mpr allowed
  · next notAllowed =>
    split
    · next denied => exact deny_iff.mpr ⟨denied, notAllowed⟩
    · next notDenied =>
      cases weighed : weigh (store.search (.containing address)) with
      | unlisted => rfl
      | allow => exact absurd (allow_iff.mp weighed) notAllowed
      | deny => exact absurd (deny_iff.mp weighed).1 notDenied

theorem run_classify :
    (classify address).run RuleStore.answer store = (.ok (ruling store.rules address), store) := by
  rw [classify, Procedure.run_map, run_list, Except.map, weigh_search_containing]

end

/-- An address is classified by the two lists: it is allowed when some allow rule's range is of its
family and agrees with it on the leading bits, else denied when some deny rule's range does, else on
no list. Stores in which the same is listed classify alike, in whatever order they hold the rules
and however often each is there. -/
theorem classify_eq_ruling (store : MemoryStore) (address : Address) :
    (classify address).run RuleStore.answer store = (.ok (ruling store.rules address), store) ∧
    ∀ other : MemoryStore, listings other.rules = listings store.rules →
      (classify address).run RuleStore.answer other =
        (.ok (ruling store.rules address), other) := by
  refine ⟨run_classify store address, fun other same => ?_⟩
  rw [run_classify, ruling_eq_of_listings same]

/-- Nested ranges, one with host bits, one of a single address and one of a whole family, beside a
rule without a verdict: two stores that hold them in opposite order, one of them some of them twice,
classify alike. -/
theorem classify_eq_ruling_of_shuffled :
    let wide : Network := ⟨⟨.v4, 0x0A00_0000, by decide⟩, 8, by decide⟩
    let inner : Network := ⟨⟨.v4, 0x0A01_0203, by decide⟩, 16, by decide⟩
    let last : Network := .single ⟨.v4, 0x0AFF_FFFF, by decide⟩
    let old : Network := ⟨⟨.v4, 0, by decide⟩, 0, by decide⟩
    let new : Network := ⟨⟨.v6, 0, by decide⟩, 0, by decide⟩
    let rule (n : Nat) (verdict : Verdict) (network : Network) : Rule :=
      ⟨RuleId.ofNat n, verdict, network, ⟨n, 0⟩⟩
    let store : MemoryStore :=
      { rules := [rule 0 .deny wide, rule 1 .allow inner, rule 2 .allow last, rule 3 .unlisted old,
          rule 4 .deny new]
        distinct := by decide, now := ⟨5, 0⟩, supply := RuleId.ofNat, drawn := 5 }
    let other : MemoryStore :=
      { rules := [rule 6 .deny new, rule 5 .deny wide, rule 4 .unlisted old, rule 3 .allow last,
          rule 2 .allow inner, rule 1 .allow last, rule 0 .deny wide]
        distinct := by decide, now := ⟨7, 0⟩, supply := RuleId.ofNat, drawn := 7 }
    let asked : List (Address × Verdict) := [(⟨.v4, 0x0A01_FFFF, by decide⟩, .allow),
      (⟨.v4, 0x0AFF_FFFF, by decide⟩, .allow), (⟨.v4, 0x0AFF_FFFE, by decide⟩, .deny),
      (⟨.v4, 0x0B00_0000, by decide⟩, .unlisted), (⟨.v6, 0x0A01_0203, by decide⟩, .deny)]
    listings other.rules = listings store.rules ∧
      ∀ pair ∈ asked, ((classify pair.1).run RuleStore.answer other).1 = .ok pair.2 := by
  intro wide inner last old new rule store other asked
  have same : listings other.rules = listings store.rules := by decide +kernel
  have verdicts : ∀ pair ∈ asked, ruling store.rules pair.1 = pair.2 := by decide +kernel
  refine ⟨same, fun pair member => ?_⟩
  rw [(classify_eq_ruling store pair.1).2 other same, verdicts pair member]

end RuleBook
end LoginGate
