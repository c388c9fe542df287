import LoginGate.Proofs.Gate.Lists
import LoginGate.Proofs.RuleBook.Ledger
import LoginGate.Service

/-! # What one line does to the rules

Each request is answered from what is on record for the rules. Only a line that asks for a change
which can be made touches the store.
-/

namespace LoginGate

/-- The change to the rules that a request asks for, if its listing can be read. -/
def Request.change? : Request → Option RuleBook.Change
  | .addRule verdict network => (Listing.parse verdict network).toOption.map .add
  | .deleteRule verdict network => (Listing.parse verdict network).toOption.map .delete
  | .check _ _ _ | .reset _ _ | .listRules _ => none

private theorem exists_parse_of_map {verdict network : String} {wrap : Listing → RuleBook.Change}
    {change : RuleBook.Change}
    (asked : (Listing.parse verdict network).toOption.map wrap = some change) :
    ∃ listing, Listing.parse verdict network = .ok listing ∧ change = wrap listing := by
  cases read : Listing.parse verdict network with
  | error fault =>
    rw [read] at asked
    cases asked
  | ok listing =>
    rw [read] at asked
    exact ⟨listing, rfl, (Option.some.inj asked).symm⟩

theorem Request.exists_parse_of_change? {request : Request} {change : RuleBook.Change}
    (asked : request.change? = some change) :
    ∃ verdict network listing, Listing.parse verdict network = .ok listing ∧
      (request = .addRule verdict network ∧ change = .add listing ∨
        request = .deleteRule verdict network ∧ change = .delete listing) := by
  cases request with
  | addRule verdict network =>
    obtain ⟨listing, read, same⟩ := exists_parse_of_map asked
    exact ⟨verdict, network, listing, read, .inl ⟨rfl, same⟩⟩
  | deleteRule verdict network =>
    obtain ⟨listing, read, same⟩ := exists_parse_of_map asked
    exact ⟨verdict, network, listing, read, .inr ⟨rfl, same⟩⟩
  | check login password address => cases asked
  | reset parameter value => cases asked
  | listRules verdict => cases asked

namespace Gate

variable {β : Type}

/-- The gate with other rules. -/
def withRules (gate : Gate MemoryStore β) (store : MemoryStore) : Gate MemoryStore β :=
  { gate with store }

theorem lists_iff_of_agrees {gate : Gate MemoryStore β} {ledger : Ledger}
    (agrees : gate.store.Agrees ledger) (verdict : Verdict) (address : Address) :
    gate.Lists verdict address ↔ ledger.Lists verdict address := by
  constructor
  · rintro ⟨rule, member, rfl, covers⟩
    refine ⟨rule.network, ?_, (Network.covers_iff_names _ _).mp covers⟩
    rw [Ledger.verdict?, (agrees.mem_iff rule).mp member, Option.map_some]
  · rintro ⟨network, listed, names⟩
    obtain ⟨rule, recorded, verdict⟩ := Option.map_eq_some_iff.mp listed
    obtain ⟨member, same⟩ := agrees.mem_of_eq recorded
    exact ⟨rule, member, verdict, (Network.covers_iff_names _ _).mpr (same ▸ names)⟩

end Gate

namespace Service

/-- The change to the rules that a line asks for. -/
def change? (line : String) : Option RuleBook.Change :=
  (decode line).toOption.bind Request.change?

section

variable {line : String} {request : Request} (decoded : decode line = .ok request)

include decoded in
theorem handleLine_of_decode {σ β : Type} [RuleStore σ] [Limiter β] (gate : Gate σ β) :
    handleLine gate line = handle gate request := by
  rw [handleLine, decoded]

include decoded in
theorem change?_of_decode : change? line = request.change? := by
  rw [change?, decoded]
  rfl

end

section

variable {β : Type} [Limiter β] {gate : Gate MemoryStore β} {ledger : Ledger}
  {verdict network : String} {listing : Listing}

theorem handle_addRule_of_free (agrees : gate.store.Agrees ledger)
    (read : Listing.parse verdict network = .ok listing)
    (free : ledger.verdict? listing.network = none) :
    handle gate (.addRule verdict network) =
      (.ofRule (gate.store.stamped listing), gate.withRules (gate.store.add listing)) := by
  have absent := agrees.network_ne (Option.map_eq_none_iff.mp free)
  simp only [handle, onListing, read, Gate.onRules,
    RuleBook.run_add_of_free gate.store (Listing.proper_of_parse read).listed absent]
  rfl

theorem handle_addRule_of_listed (agrees : gate.store.Agrees ledger)
    (read : Listing.parse verdict network = .ok listing)
    (taken : ledger.verdict? listing.network ≠ none) :
    handle gate (.addRule verdict network) =
      (.failure .conflict (some 2001) s!"network {listing.network} is already listed", gate) := by
  obtain ⟨present, listed⟩ := Option.ne_none_iff_exists'.mp taken
  obtain ⟨rule, recorded, -⟩ := Option.map_eq_some_iff.mp listed
  obtain ⟨member, same⟩ := agrees.mem_of_eq recorded
  simp only [handle, onListing, read, Gate.onRules,
    RuleBook.run_add_of_mem gate.store (Listing.proper_of_parse read).listed member same]
  rfl

theorem handle_deleteRule_of_listed (agrees : gate.store.Agrees ledger)
    (read : Listing.parse verdict network = .ok listing)
    (present : ledger.verdict? listing.network = some listing.verdict) :
    handle gate (.deleteRule verdict network) =
      (.done, gate.withRules (gate.store.delete listing)) := by
  obtain ⟨rule, member, same⟩ := (agrees.exists_listing_iff listing).mpr present
  simp only [handle, onListing, read, Gate.onRules,
    RuleBook.run_delete_of_mem gate.store (Listing.proper_of_parse read).listed member same]
  rfl

theorem handle_deleteRule_of_missing (agrees : gate.store.Agrees ledger)
    (read : Listing.parse verdict network = .ok listing)
    (missing : ledger.verdict? listing.network ≠ some listing.verdict) :
    handle gate (.deleteRule verdict network) =
      (.failure .notFound none s!"no {listing.verdict.name} rule for network {listing.network}",
        gate) := by
  have absent : ∀ rule ∈ gate.store.rules, rule.listing ≠ listing := fun rule member same =>
    missing ((agrees.exists_listing_iff listing).mp ⟨rule, member, same⟩)
  simp only [handle, onListing, read, Gate.onRules,
    RuleBook.run_delete_of_missing gate.store (Listing.proper_of_parse read).listed absent]
  rfl

omit [Limiter β] in
private theorem listRules_eq (gate : Gate MemoryStore β) (filter : Filter) :
    listRules gate filter = (.ofRules (gate.store.search filter), gate) := by
  rw [listRules, Gate.onRules, RuleBook.run_list]
  rfl

/-- The rules are listed, all of them or those of one verdict, and stay as they are. -/
theorem handle_listRules (gate : Gate MemoryStore β) {asked : Option String}
    {sought : Option Verdict} (read : asked.mapM Verdict.parse = .ok sought) :
    handle gate (.listRules asked) =
      (.ofRules (gate.store.search { verdict := sought }), gate) := by
  cases asked with
  | none =>
    cases read
    exact listRules_eq gate _
  | some text =>
    rw [Option.mapM_some] at read
    cases parsed : Verdict.parse text with
    | error fault =>
      rw [parsed] at read
      cases read
    | ok verdict =>
      rw [parsed] at read
      cases read
      simp only [handle, parsed]
      exact listRules_eq gate _

end

theorem handle_check {σ β : Type} [RuleStore σ] [Limiter β] (gate : Gate σ β)
    (login password : String) {text : String} {address : Address}
    (read : Address.parse text = .ok address) :
    handle gate (.check login password text) =
      (.ofOutcome (gate.check ⟨login, password, address⟩).1,
        (gate.check ⟨login, password, address⟩).2) := by
  rw [handle, Gate.checkText_of_parse gate login password read]
  rfl

/-- A request changes the rules as far as it asks for a change. -/
theorem store_handle (gate : Gate MemoryStore (UnreliableLimiter Registry)) (request : Request) :
    (handle gate request).2.store =
      request.change?.elim gate.store (RuleBook.perform gate.store) := by
  cases request with
  | check login password text =>
    cases read : Address.parse text with
    | error fault =>
      simp only [handle, Gate.checkText, read]
      rfl
    | ok address =>
      obtain ⟨_, _, _, decides, -⟩ := gate.exists_decides ⟨login, password, address⟩
      rw [handle_check gate login password read, decides.check_eq]
      rfl
  | reset parameter value =>
    rw [handle, Gate.reset]
    cases ResetRequest.key _ <;> rfl
  | addRule verdict network | deleteRule verdict network =>
    rw [handle, onListing, Request.change?]
    cases Listing.parse verdict network <;> rfl
  | listRules asked =>
    cases asked with
    | none => rfl
    | some text =>
      rw [handle]
      cases Verdict.parse text <;> rfl

/-- A line changes the rules as far as it asks for a change. -/
theorem store_handleLine (gate : Gate MemoryStore (UnreliableLimiter Registry)) (line : String) :
    (handleLine gate line).2.store =
      (change? line).elim gate.store (RuleBook.perform gate.store) := by
  cases decoded : decode line with
  | error fault =>
    rw [handleLine, change?, decoded]
    rfl
  | ok request => rw [handleLine_of_decode decoded, change?_of_decode decoded, store_handle]

end Service
end LoginGate
