import LoginGate.Proofs.RuleBook.Effect

/-! # What a deletion removes

A deletion looks for one rule of its listing and then removes by what that rule lists, so it takes
all rules of the listing at once, as many as there are, and no other rule. It fails before it
removes anything, and just as a look for the listing fails.
-/

namespace LoginGate.RuleBook

open Procedure

theorem listing_ne_of_mem_delete (store : MemoryStore) (listing : Listing) :
    ∀ rule ∈ (store.delete listing).rules, rule.listing ≠ listing := fun rule member =>
  ((store.mem_delete_iff listing rule).mp member).2

theorem listing_eq_iff (rule : Rule) (verdict : Verdict) (network : Network) :
    rule.listing = ⟨verdict, network⟩ ↔ rule.verdict = verdict ∧ rule.network = network :=
  Listing.mk.injEq .. ▸ Iff.rfl

/-- A deletion succeeds exactly when its verdict is one of a rule and some rule has that verdict and
range. Then it leaves the rules that differ in the verdict or in the range, and these as they were,
and the listing is not found any more. When it fails it leaves the store alone, and a look for the
listing fails for the same reason: the verdict is none of a rule, or there is no such rule. -/
theorem delete_removes_listing (store : MemoryStore) (verdict : Verdict) (network : Network) :
    let ran := (delete ⟨verdict, network⟩).run RuleStore.answer store
    let found := ((find ⟨verdict, network⟩).run RuleStore.answer ran.2).1
    (ran.1 = .ok () ↔ (verdict = .allow ∨ verdict = .deny) ∧
      ∃ rule ∈ store.rules, rule.verdict = verdict ∧ rule.network = network) ∧
    (ran.1 = .ok () → found = .error (.missing verdict network) ∧ ∀ rule, rule ∈ ran.2.rules ↔
      rule ∈ store.rules ∧ ¬ (rule.verdict = verdict ∧ rule.network = network)) ∧
    ∀ fault, ran.1 = .error fault → ran.2 = store ∧ found = .error fault ∧
      fault = if verdict = .unlisted then .input (.unknownVerdict "none")
        else .missing verdict network := by
  intro ran found
  simp only [← listing_eq_iff, ← Verdict.isListed_iff]
  rcases delete_cases store ⟨verdict, network⟩ with
    ⟨unlisted, deleted⟩ | ⟨listed, present, deleted⟩ | ⟨listed, missing, deleted⟩
  · obtain rfl : verdict = .unlisted := Verdict.isListed_eq_false_iff.mp unlisted
    have looked : found = .error (unlistable .unlisted) := by
      simp only [found, ran, deleted, run_find_of_unlisted store unlisted]
    rw [looked, show ran = _ from deleted]
    exact ⟨iff_of_false nofun fun ⟨listed, _⟩ => Bool.noConfusion listed, nofun,
      fun | _, rfl => ⟨rfl, rfl, rfl⟩⟩
  · have looked : found = .error (.missing verdict network) := by
      simp only [found, ran, deleted,
        run_find_of_missing _ listed (listing_ne_of_mem_delete store ⟨verdict, network⟩)]
    rw [looked, show ran = _ from deleted]
    exact ⟨iff_of_true rfl ⟨listed, present⟩, fun _ => ⟨rfl, store.mem_delete_iff _⟩, nofun⟩
  · have looked : found = .error (.missing verdict network) := by
      simp only [found, ran, deleted, run_find_of_missing store listed missing]
    have one : verdict ≠ .unlisted := fun none => by rw [none] at listed; cases listed
    rw [looked, show ran = _ from deleted, if_neg one]
    exact ⟨iff_of_false nofun fun ⟨_, rule, member, same⟩ => missing rule member same, nofun,
      fun | _, rfl => ⟨rfl, rfl, rfl⟩⟩

/-- Two rules deny a range that a third one allows, and a fourth one denies a part of it. The two
go, the other two stay. -/
theorem delete_removes_listing_of_doubled :
    let wide : Network := ⟨⟨.v4, 0x0A00_0000, by decide⟩, 8, by decide⟩
    let narrow : Network := ⟨⟨.v4, 0x0A00_0000, by decide⟩, 16, by decide⟩
    let rule (n : Nat) (verdict : Verdict) (network : Network) : Rule :=
      ⟨RuleId.ofNat n, verdict, network, ⟨n, 0⟩⟩
    let store : MemoryStore :=
      { rules := [rule 0 .deny wide, rule 1 .allow wide, rule 2 .deny narrow, rule 3 .deny wide]
        distinct := by decide, now := ⟨4, 0⟩, supply := RuleId.ofNat, drawn := 4 }
    let ran := (delete ⟨.deny, wide⟩).run RuleStore.answer store
    ran.1 = .ok () ∧ rule 0 .deny wide ∉ ran.2.rules ∧ rule 1 .allow wide ∈ ran.2.rules ∧
      rule 2 .deny narrow ∈ ran.2.rules ∧ rule 3 .deny wide ∉ ran.2.rules ∧
      ((find ⟨.deny, wide⟩).run RuleStore.answer ran.2).1 = .error (.missing .deny wide) := by
  intro wide narrow rule store ran
  obtain ⟨succeeds, removes, -⟩ := delete_removes_listing store .deny wide
  have deleted : ran.1 = .ok () :=
    succeeds.mpr ⟨.inr rfl, rule 0 .deny wide, List.mem_cons_self, rfl, rfl⟩
  obtain ⟨missing, left⟩ := removes deleted
  exact ⟨deleted, fun stays => ((left _).mp stays).2 ⟨rfl, rfl⟩, (left _).mpr (by decide),
    (left _).mpr (by decide), fun stays => ((left _).mp stays).2 ⟨rfl, rfl⟩, missing⟩

/-- No rule is looked for under a verdict of no rule, so after a deletion under such a verdict, too,
it is the verdict that is reported and not that there is no such rule. -/
theorem find_after_delete_not_missing :
    let network : Network := ⟨⟨.v4, 0x0A00_0000, by decide⟩, 8, by decide⟩
    let store : MemoryStore :=
      { rules := [⟨RuleId.ofNat 0, .deny, network, ⟨0, 0⟩⟩]
        distinct := by decide, now := ⟨1, 0⟩, supply := RuleId.ofNat, drawn := 1 }
    let ran := (delete ⟨.unlisted, network⟩).run RuleStore.answer store
    let found := ((find ⟨.unlisted, network⟩).run RuleStore.answer ran.2).1
    ran = (.error (.input (.unknownVerdict "none")), store) ∧
      found = .error (.input (.unknownVerdict "none")) ∧
      found ≠ .error (.missing .unlisted network) :=
  ⟨rfl, rfl, nofun⟩

end LoginGate.RuleBook
