import LoginGate.Proofs.Network.Coverage
import LoginGate.Proofs.RuleStore.Lawful
import Mathlib.Data.List.Induction

/-! # Rules that stand

Calls come to a store one after the other, each at the time that the clock shows, which may also go
back. What the store holds in the end can be told from the calls alone: a rule stands if a call
added it and no later call deleted its listing. A search finds the standing rules that meet its
filter, each of them once, by verdict and age, whether it goes through all rules or looks one up
directly.
-/

namespace LoginGate

/-- The rule meets every part of the filter that is set. -/
structure Filter.Meets (filter : Filter) (rule : Rule) : Prop where
  id : ∀ id ∈ filter.id, rule.id = id
  verdict : ∀ verdict ∈ filter.verdict, rule.verdict = verdict
  network : ∀ network ∈ filter.network,
    if filter.exact then rule.network = network else rule.network.Names network.address

theorem Filter.admits_iff (filter : Filter) (range : Network) :
    filter.admits range = true ↔ ∀ network ∈ filter.network,
      if filter.exact then range = network else range.Names network.address := by
  rw [admits]
  cases filter.network with
  | none => simp
  | some network =>
    simp only [Option.mem_some_iff, forall_eq']
    split
    · exact beq_iff_eq
    · exact Network.covers_iff_names range network.address

theorem Filter.selects_iff_meets (filter : Filter) (rule : Rule) :
    filter.selects rule = true ↔ filter.Meets rule := by
  simp only [selects, Bool.and_eq_true, Option.all_eq_true, beq_iff_eq, admits_iff]
  constructor
  · rintro ⟨⟨id, verdict⟩, network⟩
    exact ⟨fun _ set => (id _ set).symm, fun _ set => (verdict _ set).symm, network⟩
  · rintro ⟨id, verdict, network⟩
    exact ⟨⟨fun _ set => (id _ set).symm, fun _ set => (verdict _ set).symm⟩, network⟩

def RuleCall.isAddition : RuleCall → Bool
  | add _ => true
  | delete _ | search _ => false

namespace MemoryStore

/-- How many rules some calls add. -/
def additions (calls : List (Timestamp × RuleCall)) : Nat :=
  calls.countP (·.2.isAddition)

def after (store : MemoryStore) (calls : List (Timestamp × RuleCall)) : MemoryStore :=
  calls.foldl (fun store call => (RuleStore.answer call.2 { store with now := call.1 }).2) store

/-- A rule that one of the calls added, with the next identity of the supply, and that no later one
deleted. -/
def Stands (supply : Nat → RuleId) (calls : List (Timestamp × RuleCall)) (rule : Rule) : Prop :=
  ∃ before later, calls = before ++ (rule.updatedAt, .add rule.listing) :: later ∧
    rule.id = supply (additions before) ∧ ∀ call ∈ later, call.2 ≠ .delete rule.listing

section

variable {supply : Nat → RuleId} {calls : List (Timestamp × RuleCall)} {now : Timestamp}
  {call : RuleCall} {rule : Rule}

theorem after_append_singleton (store : MemoryStore) (calls : List (Timestamp × RuleCall))
    (now : Timestamp) (call : RuleCall) :
    store.after (calls ++ [(now, call)]) =
      (RuleStore.answer call { store.after calls with now }).2 := by
  rw [after, List.foldl_append]
  rfl

theorem additions_append_singleton (calls : List (Timestamp × RuleCall)) (now : Timestamp)
    (call : RuleCall) :
    additions (calls ++ [(now, call)]) = additions calls + if call.isAddition then 1 else 0 := by
  rw [additions, List.countP_append, List.countP_singleton]
  rfl

/-- Calls draw an identity for each rule that they add. -/
theorem drawn_after (start : Timestamp) (supply : Nat → RuleId)
    (calls : List (Timestamp × RuleCall)) :
    ((empty start supply).after calls).supply = supply ∧
      ((empty start supply).after calls).drawn = additions calls := by
  induction calls using List.reverseRecOn with
  | nil => exact ⟨rfl, rfl⟩
  | append_singleton calls last ih =>
    obtain ⟨now, call⟩ := last
    rw [after_append_singleton, additions_append_singleton, ← ih.2]
    cases call <;> exact ⟨ih.1, rfl⟩

private theorem eq_stamped_iff (store : MemoryStore) (listing : Listing) (rule : Rule) :
    rule = store.stamped listing ↔ listing = rule.listing ∧
      rule.id = store.supply store.drawn ∧ rule.updatedAt = store.now := by
  obtain ⟨id, verdict, network, updatedAt⟩ := rule
  obtain ⟨asked, range⟩ := listing
  simp only [stamped, Rule.listing, Rule.mk.injEq, Listing.mk.injEq]
  constructor
  · rintro ⟨same, rfl, rfl, time⟩
    exact ⟨⟨rfl, rfl⟩, same, time⟩
  · rintro ⟨⟨rfl, rfl⟩, same, time⟩
    exact ⟨same, rfl, rfl, time⟩

/-- What a call leaves in the store: what was there, unless it is deleted or its identity is taken
over, and what the call adds. -/
theorem mem_answer_iff (call : RuleCall) (store : MemoryStore) (rule : Rule) :
    rule ∈ (RuleStore.answer call store).2.rules ↔
      (rule ∈ store.rules ∧ call ≠ .delete rule.listing ∧
        (call.isAddition = true → rule.id ≠ store.supply store.drawn)) ∨
      (call = .add rule.listing ∧ rule.id = store.supply store.drawn ∧
        rule.updatedAt = store.now) := by
  cases call with
  | add listing =>
    refine (store.mem_add_iff listing rule).trans ?_
    rw [eq_stamped_iff]
    simp [RuleCall.isAddition]
  | delete listing =>
    refine (store.mem_delete_iff listing rule).trans ?_
    simp [RuleCall.isAddition, eq_comm]
  | search filter => simp [RuleCall.isAddition, RuleStore.answer]

/-- A rule stands after one call more if it stood before and is not deleted, or is added. -/
theorem stands_append_singleton_iff :
    Stands supply (calls ++ [(now, call)]) rule ↔
      (Stands supply calls rule ∧ call ≠ .delete rule.listing) ∨
      (call = .add rule.listing ∧ rule.id = supply (additions calls) ∧ rule.updatedAt = now) := by
  constructor
  · rintro ⟨before, later, made, same, kept⟩
    rcases List.eq_nil_or_concat' later with rfl | ⟨later, last, rfl⟩
    · obtain ⟨rfl, ⟨⟩⟩ := List.append_inj' made rfl
      exact .inr ⟨rfl, same, rfl⟩
    · rw [← List.cons_append, ← List.append_assoc] at made
      obtain ⟨rfl, ⟨⟩⟩ := List.append_inj' made rfl
      obtain ⟨spared, last⟩ := List.forall_mem_append.mp kept
      exact .inl ⟨⟨before, later, rfl, same, spared⟩, last _ (List.mem_singleton_self _)⟩
  · rintro (⟨⟨before, later, rfl, same, kept⟩, spared⟩ | ⟨rfl, same, rfl⟩)
    · refine ⟨before, later ++ [(now, call)], by simp, same, ?_⟩
      exact List.forall_mem_append.mpr ⟨kept, List.forall_mem_singleton.mpr spared⟩
    · exact ⟨calls, [], rfl, same, List.forall_mem_nil _⟩

/-- A standing rule has an identity that was drawn. -/
theorem Stands.exists_index (stands : Stands supply calls rule) :
    ∃ index < additions calls, rule.id = supply index := by
  obtain ⟨before, later, rfl, same, -⟩ := stands
  refine ⟨additions before, ?_, same⟩
  unfold additions
  rw [List.countP_append, List.countP_cons_of_pos rfl]
  exact Nat.lt_add_of_pos_right (Nat.succ_pos _)

/-- As long as no identity is drawn twice, the rules in the store are the standing ones. -/
theorem mem_after_iff (start : Timestamp)
    (fresh : ((List.range (additions calls)).map supply).Nodup) :
    rule ∈ ((empty start supply).after calls).rules ↔ Stands supply calls rule := by
  induction calls using List.reverseRecOn with
  | nil => exact ⟨nofun, fun ⟨_, _, made, _⟩ => by simp at made⟩
  | append_singleton calls last ih =>
    obtain ⟨now, call⟩ := last
    obtain ⟨source, drawn⟩ := drawn_after start supply calls
    rw [additions_append_singleton] at fresh
    have before := ih (fresh.sublist ((List.range_sublist.mpr (Nat.le_add_right _ _)).map _))
    rw [after_append_singleton, mem_answer_iff, stands_append_singleton_iff]
    simp only [before, source, drawn]
    refine or_congr_left (and_congr_right fun stands => and_iff_left fun adds => ?_)
    rw [adds, if_pos rfl] at fresh
    -- The identity of a standing rule has been drawn, so it is not the next one.
    obtain ⟨index, earlier, same⟩ := stands.exists_index
    rw [same]
    intro again
    have equal := List.inj_on_of_nodup_map fresh (List.mem_range.mpr (Nat.lt_succ_of_lt earlier))
      (List.mem_range.mpr (Nat.lt_succ_self _)) again
    exact Nat.ne_of_lt earlier equal

end

/-- Whatever calls were made, and at whatever times, a search succeeds and finds each standing rule
that meets its filter once, and nothing else; those that allow come before those that deny, with
those of neither verdict in front, and within a verdict the older ones come first. It finds the same
as a scan of all rules, also when the filter names an identity. -/
theorem search_finds_standing (start : Timestamp) (supply : Nat → RuleId)
    (calls : List (Timestamp × RuleCall))
    (fresh : ((List.range (additions calls)).map supply).Nodup) (filter : Filter) :
    let store := (empty start supply).after calls
    ∃ found, RuleStore.answer (.search filter) store = (.ok found, store) ∧
      found.Nodup ∧ (∀ rule, rule ∈ found ↔ Stands supply calls rule ∧ filter.Meets rule) ∧
      (found.Pairwise fun first second => first.verdict.rank < second.verdict.rank ∨
        first.verdict = second.verdict ∧ first.updatedAt.atMost second.updatedAt = true) ∧
      found = (store.rules.filter filter.selects).mergeSort Rule.atMost := by
  intro store
  refine ⟨store.search filter, rfl, store.nodup_search filter, fun rule => ?_, ?_,
    store.search_eq_scan filter⟩
  · rw [store.mem_search_iff, mem_after_iff start fresh, filter.selects_iff_meets]
  · exact (store.pairwise_search filter).imp Rule.atMost_iff.mp

/-- While the clock runs backwards, a range is denied, allowed under a longer prefix, denied under
that as well, and then taken off the deny list and put on it again. The rules that cover an address
are found with the allow rule first and the youngest deny rule last; looking one up by its identity
finds that one. -/
theorem search_finds_standing_of_backward_clock :
    let wide : Network := ⟨⟨.v4, 0x0A00_0000, by decide⟩, 8, by decide⟩
    let narrow : Network := ⟨⟨.v4, 0x0A00_0000, by decide⟩, 16, by decide⟩
    let calls : List (Timestamp × RuleCall) := [(⟨5, 0⟩, .add ⟨.deny, wide⟩),
      (⟨4, 0⟩, .add ⟨.allow, narrow⟩), (⟨3, 0⟩, .add ⟨.deny, narrow⟩),
      (⟨2, 0⟩, .delete ⟨.deny, wide⟩), (⟨1, 0⟩, .add ⟨.deny, wide⟩)]
    let allowed : Rule := ⟨RuleId.ofNat 1, .allow, narrow, ⟨4, 0⟩⟩
    let denied : Rule := ⟨RuleId.ofNat 2, .deny, narrow, ⟨3, 0⟩⟩
    let again : Rule := ⟨RuleId.ofNat 3, .deny, wide, ⟨1, 0⟩⟩
    let covering : Filter := .containing ⟨.v4, 0x0A00_0007, by decide⟩
    let named : Filter := { id := some (RuleId.ofNat 2), verdict := some .deny }
    let supply := RuleId.ofNat
    ((List.range (additions calls)).map supply).Nodup ∧
      ((empty ⟨0, 0⟩ supply).after calls).search covering = [allowed, again, denied] ∧
      (∀ rule, rule ∈ [allowed, again, denied] ↔
        Stands supply calls rule ∧ covering.Meets rule) ∧
      ((empty ⟨0, 0⟩ supply).after calls).search named = [denied] ∧
      ∀ rule, rule ∈ [denied] ↔ Stands supply calls rule ∧ named.Meets rule := by
  intro wide narrow calls allowed denied again covering named supply
  have fresh : ((List.range (additions calls)).map supply).Nodup := by decide +kernel
  have scanned : ((empty ⟨0, 0⟩ supply).after calls).rules.filter covering.selects =
      [allowed, denied, again] := by decide +kernel
  have byAddress : ((empty ⟨0, 0⟩ supply).after calls).search covering =
      [allowed, again, denied] := by
    have first : allowed.atMost denied = true := by decide
    have later : denied.atMost again = false := by decide
    have between : allowed.atMost again = true := by decide
    rw [search_eq_scan, scanned]
    simp [List.mergeSort, List.MergeSort.Internal.splitInTwo, first, later, between]
  have byIdentity : ((empty ⟨0, 0⟩ supply).after calls).search named = [denied] := by
    decide +kernel
  obtain ⟨_, ⟨⟩, -, covers, -⟩ := search_finds_standing ⟨0, 0⟩ supply calls fresh covering
  obtain ⟨_, ⟨⟩, -, meets, -⟩ := search_finds_standing ⟨0, 0⟩ supply calls fresh named
  exact ⟨fresh, byAddress, byAddress ▸ covers, byIdentity, byIdentity ▸ meets⟩

end MemoryStore
end LoginGate
