import LoginGate.Proofs.Gate.Run
import LoginGate.Proofs.Service.Line

/-! # Rules over the wire

Lines come in one after the other, and time passes in between. A client who keeps a ledger of the
changes asked for and the rules told can predict every answer that depends on the rules: whether a
change is made, what is listed, and which attempts the lists decide.
-/

namespace LoginGate

/-- What a client has on record after the response to a line. -/
def Ledger.noted (ledger : Ledger) (line : String) (response : Response) : Ledger :=
  (Service.change? line).elim ledger (ledger.after response.rule)

namespace Service

inductive Event where
  | line (text : String)
  /-- The clock that stamps new rules is set. -/
  | clock (now : Timestamp)
  /-- Time passes for the limiter. -/
  | advance (nanos : Nat)

def after (gate : Gate MemoryStore (UnreliableLimiter Registry)) :
    Event → Gate MemoryStore (UnreliableLimiter Registry)
  | .line text => (handleLine gate text).2
  | .clock now => gate.withRules { gate.store with now }
  | .advance nanos => gate.onRegistry fun registry => registry.advance nanos

def run (gate : Gate MemoryStore (UnreliableLimiter Registry)) (events : List Event) :
    Gate MemoryStore (UnreliableLimiter Registry) :=
  events.foldl after gate

/-- The ledger after an event at a gate. -/
def noteEvent (gate : Gate MemoryStore (UnreliableLimiter Registry)) (ledger : Ledger) :
    Event → Ledger
  | .line text => ledger.noted text (handleLine gate text).1
  | .clock _ | .advance _ => ledger

/-- The ledger after a run that begins at a gate. -/
def ledgerAlong (gate : Gate MemoryStore (UnreliableLimiter Registry)) (ledger : Ledger) :
    List Event → Ledger
  | [] => ledger
  | event :: rest => ledgerAlong (after gate event) (noteEvent gate ledger event) rest

/-- What a client with a ledger expects of the response to a line, of the ledger after it, and of
the gate. -/
structure Expected (ledger next : Ledger)
    (gate after : Gate MemoryStore (UnreliableLimiter Registry)) (line : String)
    (response : Response) : Prop where
  /-- Each range on record is named by its first address and has a rule that allows or denies. -/
  entry : ∀ network rule, ledger network = some rule →
    rule.network = network ∧ network.masked = network ∧
      (rule.verdict = .allow ∨ rule.verdict = .deny)
  /-- A range is added unless it is on record, whatever the verdict. -/
  add : ∀ verdict network listing, decode line = .ok (.addRule verdict network) →
    Listing.parse verdict network = .ok listing →
      (ledger.verdict? listing.network = none →
        ∃ rule, rule.listing = listing ∧ response = { ok := true, rule := some rule } ∧
          next = Function.update ledger listing.network (some rule)) ∧
      (ledger.verdict? listing.network ≠ none →
        response = { ok := false, kind := some "invalid_argument", code := some 2001,
                     message := some s!"network {listing.network} is already listed" } ∧
        next = ledger)
  /-- A range is deleted if it is on record with the verdict. -/
  delete : ∀ verdict network listing, decode line = .ok (.deleteRule verdict network) →
    Listing.parse verdict network = .ok listing →
      (ledger.verdict? listing.network = some listing.verdict →
        response = { ok := true } ∧ next = Function.update ledger listing.network none) ∧
      (ledger.verdict? listing.network ≠ some listing.verdict →
        response = { ok := false, kind := some "not_found", code := none,
                     message := some
                       s!"no {listing.verdict.name} rule for network {listing.network}" } ∧
        next = ledger)
  /-- What is on record is listed, once for each range, allow rules first and then by time. -/
  list : ∀ asked sought, decode line = .ok (.listRules asked) →
    asked.mapM Verdict.parse = .ok sought →
      ∃ rules, response = { ok := true, rules := some rules } ∧
        (rules.map (·.network)).Nodup ∧
        (∀ rule, rule ∈ rules ↔
          ledger rule.network = some rule ∧ ∀ verdict ∈ sought, rule.verdict = verdict) ∧
        rules.Pairwise fun first second =>
          first.verdict = .allow ∧ second.verdict = .deny ∨
            first.verdict = second.verdict ∧ first.updatedAt.atMost second.updatedAt = true
  /-- The allow list admits without a hit on any key; the deny list counts after it. -/
  check : ∀ login password text address, decode line = .ok (.check login password text) →
    Address.parse text = .ok address →
      ((response.admitted = some true ∧ after.limiter.hits = gate.limiter.hits) ↔
        ledger.Lists .allow address) ∧
      (response.reason = some .rule ↔
        ¬ ledger.Lists .allow address ∧ ledger.Lists .deny address)
  /-- Any other line changes nothing on record and no rule. -/
  other : change? line = none → next = ledger ∧ after.store = gate.store
  /-- The rules that are stored are the ones on record. -/
  stored : ∀ rule, rule ∈ after.store.rules ↔ next rule.network = some rule

section

variable {gate : Gate MemoryStore (UnreliableLimiter Registry)} {ledger : Ledger}

/-! ## One event -/

/-- No line takes an identity back. -/
private theorem drawsOn_after (event : Event) : gate.store.DrawsOn (after gate event).store := by
  cases event with
  | line text =>
    rw [after, store_handleLine]
    cases change? text with
    | none => exact .refl _
    | some change => cases change <;> exact MemoryStore.drawsOn_run _ _
  | clock now => exact ⟨rfl, Nat.le_refl _⟩
  | advance nanos => exact .refl _

/-- The store agrees with the ledger after a line. -/
private theorem agrees_handleLine (agrees : gate.store.Agrees ledger) (fresh : gate.store.Fresh)
    (line : String) :
    (handleLine gate line).2.store.Agrees (ledger.noted line (handleLine gate line).1) := by
  cases asked : change? line with
  | none =>
    rw [store_handleLine, Ledger.noted, asked]
    exact agrees
  | some change =>
    rw [Ledger.noted, asked, Option.elim_some]
    cases decoded : decode line with
    | error fault =>
      rw [change?, decoded] at asked
      cases asked
    | ok request =>
      rw [change?_of_decode decoded] at asked
      obtain ⟨verdict, network, listing, read, ⟨rfl, rfl⟩ | ⟨rfl, rfl⟩⟩ :=
        Request.exists_parse_of_change? asked
      · rw [handleLine_of_decode decoded, Ledger.after]
        by_cases free : ledger.verdict? listing.network = none
        · rw [handle_addRule_of_free agrees read free, if_pos free]
          exact agrees.add fresh (Listing.proper_of_parse read) (Option.map_eq_none_iff.mp free)
        · rw [handle_addRule_of_listed agrees read free, if_neg free]
          exact agrees
      · rw [handleLine_of_decode decoded, Ledger.after]
        by_cases present : ledger.verdict? listing.network = some listing.verdict
        · rw [handle_deleteRule_of_listed agrees read present, if_pos present]
          exact agrees.delete present
        · rw [handle_deleteRule_of_missing agrees read present, if_neg present]
          exact agrees

private theorem agrees_after (agrees : gate.store.Agrees ledger) (fresh : gate.store.Fresh)
    (event : Event) : (after gate event).store.Agrees (noteEvent gate ledger event) := by
  cases event with
  | line text => exact agrees_handleLine agrees fresh text
  | clock now => exact agrees.at_time now
  | advance nanos => exact agrees

/-! ## Runs -/

theorem drawsOn_run (gate : Gate MemoryStore (UnreliableLimiter Registry)) (events : List Event) :
    gate.store.DrawsOn (run gate events).store := by
  induction events generalizing gate with
  | nil => exact .refl _
  | cons event rest ih => exact (drawsOn_after event).trans (ih _)

/-- The store agrees with the ledger along a run, as long as its identities are fresh. -/
theorem agrees_run (agrees : gate.store.Agrees ledger) (events : List Event)
    (fresh : (run gate events).store.Fresh) :
    (run gate events).store.Agrees (ledgerAlong gate ledger events) := by
  induction events generalizing gate ledger with
  | nil => exact agrees
  | cons event rest ih =>
    exact ih (agrees_after agrees (fresh.of_drawsOn (drawsOn_run gate (event :: rest))) event) fresh

end

/-! ## Answers -/

section

variable {gate : Gate MemoryStore (UnreliableLimiter Registry)} {ledger : Ledger} {line : String}

private theorem noted_of_decode {request : Request} {change : RuleBook.Change}
    (decoded : decode line = .ok request) (asks : request.change? = some change)
    (response : Response) : ledger.noted line response = ledger.after response.rule change := by
  rw [Ledger.noted, change?_of_decode decoded, asks]
  rfl

private theorem expected_add (agrees : gate.store.Agrees ledger) {verdict network : String}
    {listing : Listing} (decoded : decode line = .ok (.addRule verdict network))
    (read : Listing.parse verdict network = .ok listing) :
    (ledger.verdict? listing.network = none →
      ∃ rule, rule.listing = listing ∧
        (handleLine gate line).1 = { ok := true, rule := some rule } ∧
        ledger.noted line (handleLine gate line).1 =
          Function.update ledger listing.network (some rule)) ∧
    (ledger.verdict? listing.network ≠ none →
      (handleLine gate line).1 =
        { ok := false, kind := some "invalid_argument", code := some 2001,
          message := some s!"network {listing.network} is already listed" } ∧
      ledger.noted line (handleLine gate line).1 = ledger) := by
  have asks : (Request.addRule verdict network).change? = some (.add listing) := by
    rw [Request.change?, read]
    rfl
  rw [noted_of_decode decoded asks, handleLine_of_decode decoded, Ledger.after]
  refine ⟨fun free => ?_, fun taken => ?_⟩
  · rw [handle_addRule_of_free agrees read free, if_pos free]
    exact ⟨gate.store.stamped listing, rfl, rfl, rfl⟩
  · rw [handle_addRule_of_listed agrees read taken, if_neg taken]
    exact ⟨rfl, rfl⟩

private theorem expected_delete (agrees : gate.store.Agrees ledger) {verdict network : String}
    {listing : Listing} (decoded : decode line = .ok (.deleteRule verdict network))
    (read : Listing.parse verdict network = .ok listing) :
    (ledger.verdict? listing.network = some listing.verdict →
      (handleLine gate line).1 = { ok := true } ∧
        ledger.noted line (handleLine gate line).1 =
          Function.update ledger listing.network none) ∧
    (ledger.verdict? listing.network ≠ some listing.verdict →
      (handleLine gate line).1 =
        { ok := false, kind := some "not_found", code := none,
          message := some s!"no {listing.verdict.name} rule for network {listing.network}" } ∧
      ledger.noted line (handleLine gate line).1 = ledger) := by
  have asks : (Request.deleteRule verdict network).change? = some (.delete listing) := by
    rw [Request.change?, read]
    rfl
  rw [noted_of_decode decoded asks, handleLine_of_decode decoded, Ledger.after]
  refine ⟨fun present => ?_, fun missing => ?_⟩
  · rw [handle_deleteRule_of_listed agrees read present, if_pos present]
    exact ⟨rfl, rfl⟩
  · rw [handle_deleteRule_of_missing agrees read missing, if_neg missing]
    exact ⟨rfl, rfl⟩

private theorem expected_list (agrees : gate.store.Agrees ledger) {asked : Option String}
    {sought : Option Verdict} (decoded : decode line = .ok (.listRules asked))
    (read : asked.mapM Verdict.parse = .ok sought) :
    ∃ rules, (handleLine gate line).1 = { ok := true, rules := some rules } ∧
      (rules.map (·.network)).Nodup ∧
      (∀ rule, rule ∈ rules ↔
        ledger rule.network = some rule ∧ ∀ verdict ∈ sought, rule.verdict = verdict) ∧
      rules.Pairwise fun first second =>
        first.verdict = .allow ∧ second.verdict = .deny ∨
          first.verdict = second.verdict ∧ first.updatedAt.atMost second.updatedAt = true := by
  have held {rule : Rule} (found : rule ∈ gate.store.search { verdict := sought }) :
      rule.listing.Proper := agrees.proper rule ((gate.store.mem_search_iff _ rule).mp found).1
  rw [handleLine_of_decode decoded, handle_listRules gate read]
  refine ⟨_, rfl, agrees.nodup_networks _, fun rule => ?_, ?_⟩
  · rw [gate.store.mem_search_iff, agrees.mem_iff, Filter.selects_verdict_iff]
  · refine List.Pairwise.imp_of_mem ?_ (gate.store.pairwise_search _)
    intro first second found _ atMost
    exact (Rule.atMost_iff.mp atMost).imp_left (Verdict.rank_lt_iff (held found).listed).mp

private theorem expected_check (agrees : gate.store.Agrees ledger) {login password text : String}
    {address : Address} (decoded : decode line = .ok (.check login password text))
    (read : Address.parse text = .ok address) :
    (((handleLine gate line).1.admitted = some true ∧
        (handleLine gate line).2.limiter.hits = gate.limiter.hits) ↔
      ledger.Lists .allow address) ∧
    ((handleLine gate line).1.reason = some .rule ↔
      ¬ ledger.Lists .allow address ∧ ledger.Lists .deny address) := by
  have lists := Gate.lists_iff_of_agrees agrees
  rw [handleLine_of_decode decoded, handle_check gate login password read, ← lists, ← lists]
  exact ⟨(and_congr_left' Option.some_inj).trans (Gate.admitted_without_hit_iff rfl),
    Gate.reason_eq_rule_iff rfl⟩

end

/-- Over any run of lines that begins without rules, as long as identities are fresh, every line is
answered as a client expects who kept a ledger. -/
theorem handleLine_expected (start : Gate MemoryStore (UnreliableLimiter Registry))
    {now : Timestamp} {supply : Nat → RuleId} (blank : start.store = .empty now supply)
    (events : List Event) (fresh : (run start events).store.Fresh) (line : String) :
    let gate := run start events
    let ledger := ledgerAlong start .blank events
    let answer := handleLine gate line
    Expected ledger (ledger.noted line answer.1) gate answer.2 line answer.1 := by
  intro gate ledger answer
  have agrees : gate.store.Agrees ledger :=
    agrees_run (blank ▸ MemoryStore.Agrees.empty now supply) events fresh
  refine
    { entry := fun network rule recorded => ?_
      add := fun _ _ _ => expected_add agrees
      delete := fun _ _ _ => expected_delete agrees
      list := fun _ _ => expected_list agrees
      check := fun _ _ _ _ => expected_check agrees
      other := fun nothing => ?_
      stored := (agrees_handleLine agrees fresh line).mem_iff }
  · obtain ⟨member, same⟩ := agrees.mem_of_eq recorded
    have proper := agrees.proper rule member
    exact ⟨same, same ▸ proper.masked, Verdict.isListed_iff.mp proper.listed⟩
  · constructor
    · rw [Ledger.noted, nothing]
      rfl
    · rw [store_handleLine, nothing]
      rfl

/-- With a range denied and a part of it allowed, both are listed, the part first. The range is not
added again, nor deleted under the other verdict, while another range is added and the part is
deleted. An address of the part is admitted without a hit. -/
theorem handleLine_expected_of_nested :
    let start : Gate MemoryStore (UnreliableLimiter Registry) :=
      { store := .empty ⟨0, 0⟩ RuleId.ofNat
        limiter := .reliable .empty
        window := ⟨100, by decide, by decide⟩
        limits := {} }
    let events : List Event := [.line "[\"add_rule\",\"deny\",\"10.0.0.0/8\"]", .clock ⟨7, 0⟩,
      .line "[\"add_rule\",\"allow\",\"10.1.2.3/16\"]"]
    let wide : Network := ⟨⟨.v4, 0x0A00_0000, by decide⟩, 8, by decide⟩
    let part : Network := ⟨⟨.v4, 0x0A01_0000, by decide⟩, 16, by decide⟩
    let other : Network := ⟨⟨.v6, 0, by decide⟩, 0, by decide⟩
    let denied : Rule := ⟨RuleId.ofNat 0, .deny, wide, ⟨0, 0⟩⟩
    let allowed : Rule := ⟨RuleId.ofNat 1, .allow, part, ⟨7, 0⟩⟩
    let answer (line : String) : Response := (handleLine (run start events) line).1
    let attempt := "[\"check\",\"root\",\"guess\",\"10.1.200.4\"]"
    (run start events).store.Fresh ∧
      answer "[\"list_rules\",null]" = { ok := true, rules := some [allowed, denied] } ∧
      (∃ rule, answer "[\"add_rule\",\"deny\",\"::1/0\"]" = { ok := true, rule := some rule } ∧
        rule.listing = ⟨.deny, other⟩) ∧
      answer "[\"add_rule\",\"allow\",\"10.9.9.9/8\"]" =
        { ok := false, kind := some "invalid_argument", code := some 2001,
          message := some "network 10.0.0.0/8 is already listed" } ∧
      answer "[\"delete_rule\",\"allow\",\"10.1.0.0/16\"]" = { ok := true } ∧
      answer "[\"delete_rule\",\"allow\",\"10.0.0.0/8\"]" =
        { ok := false, kind := some "not_found",
          message := some "no allow rule for network 10.0.0.0/8" } ∧
      (answer attempt).admitted = some true ∧
      (handleLine (run start events) attempt).2.limiter.hits =
        (run start events).limiter.hits := by
  intro start events wide part other denied allowed answer attempt
  have fresh : (run start events).store.Fresh := by decide +kernel
  have expected := handleLine_expected start rfl events fresh
  have listed : answer "[\"list_rules\",null]" =
      { ok := true, rules := some [allowed, denied] } := by
    have lists := expected "[\"list_rules\",null]"
    obtain ⟨rules, told, distinct, listed_iff, ordered⟩ :=
      lists.list none none (by decide +kernel) (by decide +kernel)
    obtain ⟨same, unchanged⟩ := lists.other (by decide +kernel)
    have stored : (run start events).store.rules = [denied, allowed] := by decide +kernel
    have mem_iff (rule : Rule) : rule ∈ rules ↔ rule ∈ [allowed, denied] := by
      rw [listed_iff, ← same, ← lists.stored, unchanged, stored]
      simp [or_comm]
    have perm : rules.Perm [allowed, denied] :=
      (List.perm_ext_iff_of_nodup distinct.of_map (by decide)).mpr mem_iff
    have sorted : rules = [allowed, denied] := by
      refine perm.eq_of_pairwise ?_ ordered (by decide)
      simp only [mem_iff, List.mem_cons, List.not_mem_nil, or_false]
      rintro _ _ (rfl | rfl) (rfl | rfl)
      all_goals decide
    exact sorted ▸ told
  obtain ⟨rule, asked, added, -⟩ := ((expected "[\"add_rule\",\"deny\",\"::1/0\"]").add "deny"
    "::1/0" ⟨.deny, other⟩ (by decide +kernel) (by decide +kernel)).1 (by decide +kernel)
  have kept := ((expected "[\"add_rule\",\"allow\",\"10.9.9.9/8\"]").add "allow" "10.9.9.9/8"
    ⟨.allow, wide⟩ (by decide +kernel) (by decide +kernel)).2 (by decide +kernel)
  have gone := ((expected "[\"delete_rule\",\"allow\",\"10.1.0.0/16\"]").delete "allow"
    "10.1.0.0/16" ⟨.allow, part⟩ (by decide +kernel) (by decide +kernel)).1 (by decide +kernel)
  have absent := ((expected "[\"delete_rule\",\"allow\",\"10.0.0.0/8\"]").delete "allow"
    "10.0.0.0/8" ⟨.allow, wide⟩ (by decide +kernel) (by decide +kernel)).2 (by decide +kernel)
  have lists : (ledgerAlong start .blank events).Lists .allow ⟨.v4, 0x0A01_C804, by decide⟩ :=
    ⟨part, by decide +kernel, (Network.covers_iff_names _ _).mp (by decide +kernel)⟩
  have admitted := ((expected attempt).check "root" "guess" "10.1.200.4" _ (by decide +kernel)
    (by decide +kernel)).1.mpr lists
  exact ⟨fresh, listed, ⟨rule, added, asked⟩, kept.1.trans (by decide +kernel), gone.1,
    absent.1.trans (by decide +kernel), admitted⟩

end Service
end LoginGate
