import LoginGate.Proofs.Procedure.Crew
import LoginGate.Proofs.RuleStore.Lawful
import LoginGate.RuleBook

/-! # Ranges that are listed twice

An addition looks for its range and then lists it, and anything may happen between the two calls. A
rule that stays in the store is found by everyone who looks for its range afterwards. So a second
rule for the range can only come from an addition that had looked before the first one was there.
-/

namespace LoginGate

variable {ι : Type}

/-! ## What happens to a rule -/

namespace MemoryStore

/-- The answer to a call that is made at some time. -/
def answerAt (now : Timestamp) (call : RuleCall) (store : MemoryStore) : call.Answer × MemoryStore :=
  RuleStore.answer call { store with now }

/-- The turn at which somebody looks for a range and finds no rule. -/
@[reducible]
def findsFree (who : ι) (now : Timestamp) (network : Network) :
    Turn RuleCall.Answer ι Timestamp :=
  ⟨who, now, .search (.exactly network), .ok []⟩

/-- The turn at which somebody stores a rule. -/
@[reducible]
def stores (who : ι) (now : Timestamp) (rule : Rule) : Turn RuleCall.Answer ι Timestamp :=
  ⟨who, now, .add rule.listing, .ok rule⟩

/-- A turn stores one rule. -/
private theorem stores_inj {one other : ι} {earlier later : Timestamp} {first second : Rule}
    (same : stores one earlier first = stores other later second) : first = second := by
  obtain ⟨_, _, _, _⟩ := first
  obtain ⟨_, _, _, _⟩ := second
  cases same
  rfl

/-- A turn in which somebody looks for a rule, among others, and does not find it. -/
def Misses (rule : Rule) (turn : Turn RuleCall.Answer ι Timestamp) : Prop :=
  ∃ who now filter found, turn = ⟨who, now, .search filter, .ok found⟩ ∧
    filter.selects rule = true ∧ rule ∉ found

/-- A rule that is there in the end has been there from the start, or was stored at some turn.
Nobody has missed it since. -/
theorem mem_of_serves {start final : MemoryStore} {turns : List (Turn RuleCall.Answer ι Timestamp)}
    (serves : Serves answerAt start turns final) {rule : Rule} (member : rule ∈ final.rules) :
    (rule ∈ start.rules ∧ ∀ turn ∈ turns, ¬ Misses rule turn) ∨
      ∃ before who now later, turns = before ++ stores who now rule :: later ∧
        ∀ turn ∈ later, ¬ Misses rule turn := by
  induction serves with
  | refl => exact .inl ⟨member, List.forall_mem_nil _⟩
  | @turn store final rest who now call later ih =>
    rcases ih member with ⟨held, found⟩ | ⟨before, other, moment, after, rfl, found⟩
    · cases call with
      | add listing =>
        rcases (mem_add_iff { store with now } listing rule).mp held with ⟨old, -⟩ | rfl
        · exact .inl ⟨old, List.forall_mem_cons.mpr ⟨nofun, found⟩⟩
        · exact .inr ⟨[], who, now, rest, rfl, found⟩
      | delete listing =>
        have old := ((mem_delete_iff { store with now } listing rule).mp held).1
        exact .inl ⟨old, List.forall_mem_cons.mpr ⟨nofun, found⟩⟩
      | search filter =>
        refine .inl ⟨held, List.forall_mem_cons.mpr ⟨?_, found⟩⟩
        rintro ⟨_, _, _, _, ⟨⟩, selected, absent⟩
        exact absent ((mem_search_iff { store with now } filter rule).mpr ⟨held, selected⟩)
    · exact .inr ⟨_ :: before, other, moment, after, rfl, found⟩

end MemoryStore

namespace RuleBook

open MemoryStore Procedure

/-! ## What callers do -/

/-- What a caller of the rule book wants. -/
inductive Errand where
  | add (listing : Listing)
  | delete (listing : Listing)
  | find (listing : Listing)
  | list (filter : Filter)
  | classify (address : Address)
  deriving DecidableEq, Repr

namespace Errand

/-- The errand as a task, without what it tells the caller. -/
def task : Errand → Task Unit
  | add listing => (RuleBook.add listing).map (·.map fun _ => ())
  | delete listing => RuleBook.delete listing
  | find listing => (RuleBook.find listing).map (·.map fun _ => ())
  | list filter => (RuleBook.list filter).map (·.map fun _ => ())
  | classify address => (RuleBook.classify address).map (·.map fun _ => ())

/-- The range that is to be listed. -/
def added? : Errand → Option Network
  | add listing => some listing.network
  | _ => none

/-- A task that never adds a rule, whatever it is told. -/
@[reducible]
def AddsNothing (task : Task Unit) : Prop :=
  Keeps (fun call => ∀ listing, call ≠ .add listing) (fun _ _ => True) (fun _ => True) task

/-- Only an addition adds a rule. -/
theorem addsNothing_task {errand : Errand} (other : ∀ listing, errand ≠ add listing) :
    AddsNothing errand.task := by
  cases errand with
  | add listing => exact absurd rfl (other listing)
  | delete listing =>
    rw [task, RuleBook.delete, RuleBook.find]
    split
    · refine .ask nofun ?_
      rintro (fault | ⟨⟩ | ⟨rule, others⟩) -
      · exact .done trivial
      · exact .done trivial
      · refine .ask nofun ?_
        rintro (fault | ⟨⟩) - <;> exact .done trivial
    · exact .done trivial
  | find listing =>
    rw [task, RuleBook.find]
    split
    · refine .ask nofun ?_
      rintro (fault | ⟨⟩ | ⟨rule, others⟩) - <;> exact .done trivial
    · exact .done trivial
  | list filter =>
    refine .ask nofun ?_
    rintro (fault | rules) - <;> exact .done trivial
  | classify address =>
    refine .ask nofun ?_
    rintro (fault | rules) - <;> exact .done trivial

/-- An addition lists its range once it has looked for it and found nothing, and nobody else adds
anything. -/
theorem of_leads_add {errand : Errand} {before : List (Exchange RuleCall.Answer)}
    {listing : Listing} {next : RuleCall.Answer (.add listing) → Task Unit}
    (leads : Leads errand.task before (.ask (.add listing) next)) :
    errand = add listing ∧ before = [⟨.search (.exactly listing.network), .ok []⟩] := by
  by_cases adds : ∃ asked, errand = add asked
  · obtain ⟨asked, rfl⟩ := adds
    rw [task, RuleBook.add] at leads
    split at leads
    · rcases leads_ask_iff.mp leads with ⟨-, ⟨⟩⟩ | ⟨(fault | ⟨⟩ | ⟨rule, others⟩), rest, rfl, found⟩
      · cases (leads_done_iff.mp found).2
      · rcases leads_ask_iff.mp found with ⟨rfl, ⟨⟩⟩ | ⟨(fault | rule), rest, rfl, added⟩
        · exact ⟨rfl, rfl⟩
        · cases (leads_done_iff.mp added).2
        · cases (leads_done_iff.mp added).2
      · cases (leads_done_iff.mp found).2
    · cases (leads_done_iff.mp leads).2
  · have nothing := addsNothing_task (not_exists.mp adds)
    cases (nothing.of_leads leads fun _ _ => trivial).2 with
    | ask other rest => exact absurd rfl (other listing)

end Errand

/-! ## Additions that overlap -/

/-- One rule is stored by an addition while another addition is under way, which had found the range
free before and stores a rule for it after that. -/
def Overlap (errands : ι → Errand) (turns : List (Turn RuleCall.Answer ι Timestamp))
    (first second : Rule) : Prop :=
  ∃ one other, one ≠ other ∧
    errands one = .add first.listing ∧ errands other = .add second.listing ∧
    ∃ looked earlier later, [findsFree other looked second.network, stores one earlier first,
      stores other later second].Sublist turns

/-- All turns of one come before the first turn of the other. -/
def Precedes (turns : List (Turn RuleCall.Answer ι Timestamp)) (one other : ι) : Prop :=
  turns.Pairwise fun earlier later => ¬ (earlier.who = other ∧ later.who = one)

instance [DecidableEq ι] (turns : List (Turn RuleCall.Answer ι Timestamp)) (one other : ι) :
    Decidable (Precedes turns one other) :=
  inferInstanceAs (Decidable (List.Pairwise _ _))

/-- Additions that overlap want the same ranges as their rules, and neither precedes the other. -/
theorem Overlap.exists_not_precedes {errands : ι → Errand}
    {turns : List (Turn RuleCall.Answer ι Timestamp)} {first second : Rule}
    (overlap : Overlap errands turns first second) :
    ∃ one other, one ≠ other ∧ (errands one).added? = some first.network ∧
      (errands other).added? = some second.network ∧
      ¬ Precedes turns one other ∧ ¬ Precedes turns other one := by
  obtain ⟨one, other, differ, wanted, alsoWanted, looked, earlier, later, order⟩ := overlap
  refine ⟨one, other, differ, congrArg Errand.added? wanted, congrArg Errand.added? alsoWanted,
    fun precedes => ?_, fun precedes => ?_⟩
  · have apart := List.rel_of_pairwise_cons (precedes.sublist order) List.mem_cons_self
    exact apart ⟨rfl, rfl⟩
  · have apart := List.rel_of_pairwise_cons (precedes.sublist order).of_cons List.mem_cons_self
    exact apart ⟨rfl, rfl⟩

section

variable [DecidableEq ι] {errands : ι → Errand} {store : MemoryStore}
  {slots : List (Timestamp × ι)} {who : ι} {now : Timestamp} {rule : Rule}
  {before later : List (Turn RuleCall.Answer ι Timestamp)}

/-- Those who run errands at the same time. -/
@[reducible]
def runners (errands : ι → Errand) (store : MemoryStore) :
    Crew RuleCall.Answer ι (Except RuleFault Unit) MemoryStore :=
  ⟨fun who => (errands who).task, store⟩

/-- A rule is stored by somebody who was sent to list it and has only looked for its range. -/
theorem of_stores (taken : (runners errands store).turns answerAt slots =
      before ++ stores who now rule :: later) :
    errands who = .add rule.listing ∧
      heard who before = [⟨.search (.exactly rule.network), .ok []⟩] := by
  obtain ⟨next, leads⟩ := Crew.leads_turn taken
  exact Errand.of_leads_add leads

/-- Of two rules for one range that are not missed once they are stored, the later one is stored by
an addition that the earlier one has overlapped. -/
theorem overlap_of_stores {first second : Rule} {one other : ι} {earlier moment : Timestamp}
    {early between late : List (Turn RuleCall.Answer ι Timestamp)}
    (taken : (runners errands store).turns answerAt slots =
      early ++ stores one earlier first :: (between ++ stores other moment second :: late))
    (same : first.network = second.network) (found : ∀ turn ∈ between, ¬ Misses first turn) :
    Overlap errands ((runners errands store).turns answerAt slots) first second := by
  obtain ⟨wanted, -⟩ := of_stores taken
  have split : (runners errands store).turns answerAt slots =
      (early ++ stores one earlier first :: between) ++ stores other moment second :: late := by
    rw [taken, List.append_assoc, List.cons_append]
  obtain ⟨alsoWanted, looked⟩ := of_stores split
  have differ : one ≠ other := by
    rintro rfl
    have added : (stores one earlier first).exchange ∈
        heard one (early ++ stores one earlier first :: between) :=
      mem_heard_iff.mpr ⟨_, List.mem_append_right _ List.mem_cons_self, rfl, rfl⟩
    rw [looked, List.mem_singleton] at added
    cases added
  refine ⟨one, other, differ, wanted, alsoWanted, ?_⟩
  have free : ⟨.search (.exactly second.network), .ok []⟩ ∈
      heard other (early ++ stores one earlier first :: between) := looked ▸ List.mem_singleton_self _
  obtain ⟨⟨_, before, call, reply⟩, member, rfl, ⟨⟩⟩ := mem_heard_iff.mp free
  refine ⟨before, earlier, moment, ?_⟩
  -- Nobody misses the first rule once it is stored, so this look came before.
  rw [taken]
  rcases List.mem_append.mp member with member | member
  · exact (List.singleton_sublist.mpr member).append
      (.cons_cons _ (List.singleton_sublist.mpr (List.mem_append_right _ List.mem_cons_self)))
  · have between := (List.mem_cons.mp member).resolve_left nofun
    refine absurd ⟨_, _, _, _, rfl, ?_, List.not_mem_nil⟩ (found _ between)
    exact (Filter.selects_exactly_iff _ _).mpr same

private theorem exists_between_of_ne {α : Type} {front back before after : List α} {one other : α}
    (same : front ++ one :: back = before ++ other :: after) (differ : one ≠ other) :
    (∃ between, back = between ++ other :: after) ∨ ∃ between, after = between ++ one :: back := by
  rcases List.append_eq_append_iff.mp same with ⟨middle, -, tail⟩ | ⟨middle, -, tail⟩
  · cases middle with
    | nil => exact absurd (List.cons.inj tail).1 differ
    | cons _ between => exact .inl ⟨between, (List.cons.inj tail).2⟩
  · cases middle with
    | nil => exact absurd (List.cons.inj tail).1.symm differ
    | cons _ between => exact .inr ⟨between, (List.cons.inj tail).2⟩

/-- Different rules for one range are in the store at the same time only when the additions that
stored them overlapped: the one whose rule is later had looked before the other rule was there. So a
range that no two overlapping additions ask for is listed once at most, whatever else is added,
deleted and looked for, and in whatever order. -/
theorem listed_once_unless_overlap (errands : ι → Errand) (now : Timestamp)
    (supply : Nat → RuleId) (slots : List (Timestamp × ι)) :
    let crew := runners errands (.empty now supply)
    let turns := crew.turns answerAt slots
    let rules := (crew.run answerAt slots).state.rules
    (∀ first ∈ rules, ∀ second ∈ rules, first ≠ second → first.network = second.network →
      Overlap errands turns first second ∨ Overlap errands turns second first) ∧
    ∀ network, (∀ one other, one ≠ other → (errands one).added? = some network →
        (errands other).added? = some network →
        Precedes turns one other ∨ Precedes turns other one) →
      ∀ first ∈ rules, ∀ second ∈ rules, first.network = network → second.network = network →
        first = second := by
  intro crew turns rules
  have overlap : ∀ first ∈ rules, ∀ second ∈ rules, first ≠ second →
      first.network = second.network →
      Overlap errands turns first second ∨ Overlap errands turns second first := by
    intro first member second also differ same
    have serves : Serves answerAt (.empty now supply) turns (crew.run answerAt slots).state :=
      crew.serves_run answerAt slots
    obtain ⟨before, one, earlier, after, taken, found⟩ :=
      (mem_of_serves serves member).resolve_left fun old => List.not_mem_nil old.1
    obtain ⟨front, other, later, rest, alsoTaken, alsoFound⟩ :=
      (mem_of_serves serves also).resolve_left fun old => List.not_mem_nil old.1
    rcases exists_between_of_ne (taken.symm.trans alsoTaken) (differ ∘ stores_inj) with
      ⟨between, rfl⟩ | ⟨between, rfl⟩
    · refine .inl (overlap_of_stores taken same fun turn mem => found turn ?_)
      exact List.mem_append_left _ mem
    · refine .inr (overlap_of_stores alsoTaken same.symm fun turn mem => alsoFound turn ?_)
      exact List.mem_append_left _ mem
  refine ⟨overlap, fun network apart first member second also range same => ?_⟩
  have separate {first second : Rule} (range : first.network = network)
      (same : second.network = network) : ¬ Overlap errands turns first second := by
    intro overlap
    obtain ⟨one, other, differ, wanted, alsoWanted, before, after⟩ := overlap.exists_not_precedes
    rw [range] at wanted
    rw [same] at alsoWanted
    exact (apart one other differ wanted alsoWanted).elim before after
  by_contra differ
  exact (overlap first member second also differ (range.trans same.symm)).elim
    (separate range same) (separate same range)

/-- A range that two callers look for before either lists it is listed twice, while a range that is
listed, deleted and listed again at the same time is there once. -/
theorem listed_once_unless_overlap_of_two_ranges :
    let wide : Network := ⟨⟨.v4, 0x0A00_0000, by decide⟩, 8, by decide⟩
    let narrow : Network := ⟨⟨.v4, 0x0A00_0000, by decide⟩, 16, by decide⟩
    let errands : Fin 5 → Errand := fun who => [.add ⟨.deny, wide⟩, .add ⟨.allow, wide⟩,
      .add ⟨.deny, narrow⟩, .delete ⟨.deny, narrow⟩, .add ⟨.allow, narrow⟩].get who
    let slots : List (Timestamp × Fin 5) := [0, 2, 1, 2, 0, 3, 1, 3, 4, 4].map (⟨0, 0⟩, ·)
    let crew := runners errands (.empty ⟨0, 0⟩ RuleId.ofNat)
    let turns := crew.turns answerAt slots
    let rules := (crew.run answerAt slots).state.rules
    rules.map Rule.listing = [⟨.deny, wide⟩, ⟨.allow, wide⟩, ⟨.allow, narrow⟩] ∧
      (∃ first ∈ rules, ∃ second ∈ rules, first ≠ second ∧
        (Overlap errands turns first second ∨ Overlap errands turns second first)) ∧
      ∀ first ∈ rules, ∀ second ∈ rules, first.network = narrow → second.network = narrow →
        first = second := by
  intro wide narrow errands slots crew turns rules
  have listings : rules.map Rule.listing = [⟨.deny, wide⟩, ⟨.allow, wide⟩, ⟨.allow, narrow⟩] := by
    decide +kernel
  have twice : ∃ first ∈ rules, ∃ second ∈ rules, first ≠ second ∧
      first.network = second.network := by decide +kernel
  have apart : ∀ one other, one ≠ other → (errands one).added? = some narrow →
      (errands other).added? = some narrow → Precedes turns one other ∨ Precedes turns other one := by
    decide +kernel
  obtain ⟨overlap, once⟩ := listed_once_unless_overlap errands ⟨0, 0⟩ RuleId.ofNat slots
  obtain ⟨first, member, second, also, differ, same⟩ := twice
  exact ⟨listings, ⟨first, member, second, also, differ, overlap first member second also differ same⟩,
    once narrow apart⟩

end

end RuleBook
end LoginGate
