import LoginGate.Proofs.Network.Coverage
import LoginGate.Proofs.RuleBook.Effect

/-! # One rule for each range

Whatever is added and deleted, and when, the rules stay within two lists and no two of them have the
same range. A range with its host bits is not the same as without them, although both cover the same
addresses. So a second rule gets past the search for duplicates exactly when it spells the range in
another way.
-/

namespace LoginGate.RuleBook

/-- The store after a change that is asked for at some time. -/
def changed (store : MemoryStore) : Timestamp × Change → MemoryStore
  | (now, change) => perform { store with now } change

/-- The store after some changes, in order. -/
def changedAll (store : MemoryStore) (changes : List (Timestamp × Change)) : MemoryStore :=
  changes.foldl changed store

/-- The range that a change asks to list. -/
def Change.added? : Change → Option Network
  | .add listing => some listing.network
  | .delete _ => none

/-- Some change asks to list this very range. -/
def Adds (changes : List (Timestamp × Change)) (network : Network) : Prop :=
  ∃ change ∈ changes, change.2.added? = some network

/-- The rules are on one of the two lists, and each has a range of its own, which is one of some
given ranges. -/
structure Catalogued (given : Network → Prop) (store : MemoryStore) : Prop where
  listed : ∀ rule ∈ store.rules, rule.verdict.isListed = true
  given : ∀ rule ∈ store.rules, given rule.network
  unique : store.rules.Pairwise fun first second => first.network ≠ second.network

namespace Catalogued

variable {given : Network → Prop} {store : MemoryStore} {listing : Listing}

theorem empty (now : Timestamp) (supply : Nat → RuleId) :
    Catalogued given (.empty now supply) :=
  ⟨List.forall_mem_nil _, List.forall_mem_nil _, .nil⟩

theorem of_sublist {fewer : MemoryStore} (catalogued : Catalogued given store)
    (kept : fewer.rules.Sublist store.rules) : Catalogued given fewer :=
  ⟨fun rule member => catalogued.listed rule (kept.subset member),
    fun rule member => catalogued.given rule (kept.subset member), catalogued.unique.sublist kept⟩

/-- A rule may join when no other has its range. -/
theorem add (catalogued : Catalogued given store) (listed : listing.verdict.isListed = true)
    (named : given listing.network)
    (free : ∀ rule ∈ store.rules, rule.network ≠ listing.network) :
    Catalogued given (store.add listing) := by
  -- The new rule may replace one of its identity; that only removes a rule.
  have kept : Catalogued given (store.retain (·.id != (store.stamped listing).id)) :=
    catalogued.of_sublist List.filter_sublist
  refine ⟨fun rule member => ?_, fun rule member => ?_, ?_⟩
  · rcases (store.mem_add_iff listing rule).mp member with ⟨held, -⟩ | rfl
    · exact catalogued.listed rule held
    · exact listed
  · rcases (store.mem_add_iff listing rule).mp member with ⟨held, -⟩ | rfl
    · exact catalogued.given rule held
    · exact named
  · refine List.pairwise_append.mpr ⟨kept.unique, List.pairwise_singleton _ _, ?_⟩
    intro rule member added last
    rw [List.mem_singleton.mp last]
    exact free rule (List.mem_of_mem_filter member)

/-- No change spoils the catalogue. -/
theorem changed (catalogued : Catalogued given store) (now : Timestamp) (change : Change)
    (named : ∀ network, change.added? = some network → given network) :
    Catalogued given (changed store (now, change)) := by
  -- The time is no part of what is catalogued.
  have timed : Catalogued given { store with now } :=
    ⟨catalogued.listed, catalogued.given, catalogued.unique⟩
  rw [RuleBook.changed]
  rcases perform_cases { store with now } change with
    same | ⟨listing, rfl, listed, free, same⟩ | ⟨listing, rfl, same⟩
  · rw [same]
    exact timed
  · rw [same]
    exact timed.add listed (named _ rfl) free
  · rw [same]
    exact timed.of_sublist List.filter_sublist

/-- The rules stay catalogued over any changes that add some of the given ranges only. -/
theorem changedAll (catalogued : Catalogued given store) (changes : List (Timestamp × Change))
    (named : ∀ network, Adds changes network → given network) :
    Catalogued given (changedAll store changes) := by
  induction changes generalizing store with
  | nil => exact catalogued
  | cons first rest ih =>
    obtain ⟨now, change⟩ := first
    have here : ∀ network, change.added? = some network → given network := fun network adds =>
      named network ⟨(now, change), List.mem_cons_self, adds⟩
    refine ih (catalogued.changed now change here) fun network ⟨later, member, adds⟩ => ?_
    exact named network ⟨later, List.mem_cons_of_mem _ member, adds⟩

end Catalogued

/-- After any additions and deletions every rule allows or denies, and different rules have
different ranges. Two of them cover the same addresses only when they name the range by different
addresses, and none do if no range was added under two names. -/
theorem changedAll_unique (now : Timestamp) (supply : Nat → RuleId)
    (changes : List (Timestamp × Change)) :
    let rules := (changedAll (.empty now supply) changes).rules
    (∀ rule ∈ rules, rule.verdict = .allow ∨ rule.verdict = .deny) ∧
    (rules.Pairwise fun first second => first.network ≠ second.network ∧
      ((∀ address, first.network.covers address = second.network.covers address) →
        first.network.masked = second.network.masked ∧
          first.network.address ≠ second.network.address)) ∧
    ((∀ first second, Adds changes first → Adds changes second → first.masked = second.masked →
        first = second) →
      rules.Pairwise fun first second =>
        ∃ address, first.network.covers address ≠ second.network.covers address) := by
  intro rules
  have catalogued : Catalogued (Adds changes) (changedAll (.empty now supply) changes) :=
    (Catalogued.empty now supply).changedAll changes fun _ adds => adds
  refine ⟨fun rule member => Verdict.isListed_iff.mp (catalogued.listed rule member), ?_,
    fun once => ?_⟩
  · refine catalogued.unique.imp fun {first second} differs => ⟨differs, fun same => ?_⟩
    have masked := (Network.masked_eq_iff _ _).mpr same
    exact ⟨masked, fun address => differs (Network.eq_of_masked masked address)⟩
  · refine List.Pairwise.imp_of_mem (fun {first second} held other differs => ?_) catalogued.unique
    by_contra none
    have same : ∀ address, first.network.covers address = second.network.covers address :=
      not_exists_not.mp none
    exact differs (once _ _ (catalogued.given first held) (catalogued.given second other)
      ((Network.masked_eq_iff _ _).mpr same))

/-- Ranges that are named by their first addresses are listed once each, also when one is deleted
and comes back with the other verdict. -/
theorem changedAll_unique_of_masked :
    let wide : Network := ⟨⟨.v4, 0x0A00_0000, by decide⟩, 8, by decide⟩
    let narrow : Network := ⟨⟨.v4, 0x0A00_0000, by decide⟩, 16, by decide⟩
    let changes : List (Timestamp × Change) := [(⟨0, 0⟩, .add ⟨.deny, wide⟩),
      (⟨1, 0⟩, .add ⟨.allow, wide⟩), (⟨2, 0⟩, .add ⟨.deny, narrow⟩),
      (⟨3, 0⟩, .delete ⟨.deny, wide⟩), (⟨4, 0⟩, .add ⟨.allow, wide⟩)]
    let rules := (changedAll (.empty ⟨0, 0⟩ RuleId.ofNat) changes).rules
    rules.map Rule.listing = [⟨.deny, narrow⟩, ⟨.allow, wide⟩] ∧
      rules.Pairwise fun first second =>
        ∃ address, first.network.covers address ≠ second.network.covers address := by
  intro wide narrow changes rules
  have masked : ∀ change ∈ changes, ∀ network ∈ change.2.added?, network.masked = network := by
    decide +kernel
  have once : ∀ first second, Adds changes first → Adds changes second →
      first.masked = second.masked → first = second := by
    rintro first second ⟨change, member, adds⟩ ⟨other, otherMember, otherAdds⟩ same
    rw [← masked change member first adds, ← masked other otherMember second otherAdds, same]
  exact ⟨by decide +kernel, (changedAll_unique _ _ _).2.2 once⟩

/-- A range can be listed twice: the second rule names it by another address. -/
theorem changedAll_listed_twice :
    let first : Network := ⟨⟨.v4, 0x0A00_0000, by decide⟩, 8, by decide⟩
    let second : Network := ⟨⟨.v4, 0x0A00_0001, by decide⟩, 8, by decide⟩
    let rules := (changedAll (.empty ⟨0, 0⟩ RuleId.ofNat)
      [(⟨0, 0⟩, .add ⟨.deny, first⟩), (⟨0, 0⟩, .add ⟨.deny, second⟩)]).rules
    rules.map (·.network) = [first, second] ∧
      ∀ address, first.covers address = second.covers address := by
  intro first second rules
  exact ⟨by decide +kernel, (Network.masked_eq_iff first second).mp (by decide +kernel)⟩

end LoginGate.RuleBook
