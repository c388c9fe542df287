import LoginGate.RuleStore
import Mathlib.Data.List.Nodup

/-! # Lawful rule stores

What a caller may rely on, whichever store it talks to: the store holds some rules, a search that
succeeds finds among them what the filter selects, and no search changes them.
-/

namespace LoginGate

/-- A store that holds rules and finds them. -/
class LawfulStore (σ : Type) [RuleStore σ] where
  /-- The rules that are held. -/
  rules : σ → List Rule
  rules_search : ∀ store filter, rules (RuleStore.answer (.search filter) store).2 = rules store
  mem_search : ∀ store filter found, (RuleStore.answer (.search filter) store).1 = .ok found →
    ∀ rule, rule ∈ found ↔ rule ∈ rules store ∧ filter.selects rule = true

namespace MemoryStore

/-- Among rules of different identities, looking one up by its identity finds all that have it. -/
private theorem toList_find?_eq_filter {rules : List Rule} (distinct : (rules.map (·.id)).Nodup)
    (id : RuleId) : (rules.find? (·.id == id)).toList = rules.filter (·.id == id) := by
  induction rules with
  | nil => rfl
  | cons first rest ih =>
    rw [List.map_cons, List.nodup_cons] at distinct
    obtain ⟨new, distinct⟩ := distinct
    cases same : first.id == id with
    | true =>
      have others : rest.filter (·.id == id) = [] :=
        List.filter_eq_nil_iff.mpr fun rule member also => new (List.mem_map.mpr
          ⟨rule, member, (beq_iff_eq.mp also).trans (beq_iff_eq.mp same).symm⟩)
      simp only [List.find?_cons, List.filter_cons, same, if_true, others, Option.toList_some]
    | false =>
      simp only [List.find?_cons, List.filter_cons, same, Bool.false_eq_true, if_false]
      exact ih distinct

/-- A search that looks a rule up directly finds what it would find among all rules. -/
theorem search_eq_scan (store : MemoryStore) (filter : Filter) :
    store.search filter = (store.rules.filter filter.selects).mergeSort Rule.atMost := by
  rw [search, candidates]
  split
  · next id named =>
    rw [toList_find?_eq_filter store.distinct, List.filter_filter]
    -- The identity is one of the parts that have to be met in any case.
    refine congrArg (List.mergeSort · Rule.atMost) (List.filter_congr fun rule _ => ?_)
    rw [Bool.and_eq_left_iff_imp]
    intro selected
    simp only [Filter.selects, named, Option.all_some, Bool.and_eq_true, beq_iff_eq] at selected
    exact beq_iff_eq.mpr selected.1.1.symm
  · rfl

/-- A search finds exactly the selected rules. -/
theorem mem_search_iff (store : MemoryStore) (filter : Filter) (rule : Rule) :
    rule ∈ store.search filter ↔ rule ∈ store.rules ∧ filter.selects rule = true := by
  rw [search_eq_scan, List.mem_mergeSort, List.mem_filter]

theorem nodup_search (store : MemoryStore) (filter : Filter) : (store.search filter).Nodup := by
  rw [search_eq_scan, (List.mergeSort_perm _ _).nodup_iff]
  exact (store.distinct.of_map _).filter _

theorem pairwise_search (store : MemoryStore) (filter : Filter) :
    (store.search filter).Pairwise fun first second => first.atMost second = true := by
  have trans (first second third : Rule) :
      first.atMost second = true → second.atMost third = true → first.atMost third = true :=
    Rule.atMost_trans
  have total (first second : Rule) : (first.atMost second || second.atMost first) = true := by
    rw [Bool.or_eq_true]
    exact first.atMost_total second
  exact List.pairwise_mergeSort trans total _

instance : LawfulStore MemoryStore where
  rules := MemoryStore.rules
  rules_search _ _ := rfl
  mem_search store filter found answered rule := by
    cases answered
    exact store.mem_search_iff filter rule

end MemoryStore

namespace UnreliableStore

variable {σ : Type} [RuleStore σ] [LawfulStore σ]

instance : LawfulStore (UnreliableStore σ) where
  rules store := LawfulStore.rules store.inner
  rules_search store filter := by
    cases planned : store.plan store.calls with
    | none => simp only [RuleStore.answer, planned, LawfulStore.rules_search]
    | some fault => simp only [RuleStore.answer, planned]
  mem_search store filter found answered := by
    cases planned : store.plan store.calls with
    | none =>
      simp only [RuleStore.answer, planned] at answered
      exact LawfulStore.mem_search store.inner filter found answered
    | some fault =>
      simp only [RuleStore.answer, planned] at answered
      cases answered

end UnreliableStore
end LoginGate
