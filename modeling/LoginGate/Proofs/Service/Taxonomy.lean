import LoginGate.Proofs.Gate.Reset
import LoginGate.Proofs.RuleBook.Failures
import LoginGate.Proofs.Service.Meaning

/-! # Which requests fail, and what their failures are called

A response that reports a failure carries a kind and perhaps a number. The two tell five failings
apart (`Failing`), and each of them is reported exactly when it occurs: what has to occur is said in
terms of the request, the rules in memory and the calls that are planned to fail. A check of an
address that can be read never fails, whatever becomes of the attempt.
-/

namespace LoginGate

/-- How a request can fail. -/
inductive Failing where
  /-- The range to be added has a rule already. -/
  | duplicate
  /-- The listing to be deleted has no rule. -/
  | missing
  /-- A call for the rules went wrong. -/
  | store
  /-- What is to be reset is neither a login nor an address. -/
  | parameter
  /-- The line is no request, or an argument of it cannot be read. -/
  | malformed
  deriving DecidableEq, Repr

namespace Failing

def kind : Failing → String
  | duplicate | parameter | malformed => "invalid_argument"
  | missing => "not_found"
  | store => "internal"

def code? : Failing → Option Nat
  | duplicate => some 2001
  | store => some 3001
  | parameter => some 3006
  | missing | malformed => none

theorem eq_of_kind_of_code {first second : Failing} (kinds : first.kind = second.kind)
    (codes : first.code? = second.code?) : first = second := by
  revert kinds codes
  cases first <;> cases second <;> decide

end Failing

/-- The response tells of this failing. -/
structure Response.Reports (response : Response) (failing : Failing) : Prop where
  ok : response.ok = false
  kind : response.kind = some failing.kind
  code : response.code = failing.code?

/-- A response tells of one failing at most. -/
theorem Response.Reports.unique {response : Response} {first second : Failing}
    (reports : response.Reports first) (other : response.Reports second) : first = second :=
  Failing.eq_of_kind_of_code (Option.some.inj (reports.kind.symm.trans other.kind))
    (reports.code.symm.trans other.code)

namespace Request

/-- An argument of the request is not of the form that the operation asks for. -/
def Malformed : Request → Prop
  | check _ _ address => ∀ read, Address.parse address ≠ .ok read
  | reset parameter value => parameter = "ip" ∧ ∀ read, Address.parse value ≠ .ok read
  | addRule verdict network | deleteRule verdict network =>
    (∀ read, Verdict.parse verdict ≠ .ok read) ∨ ∀ read, Network.parse network ≠ .ok read
  | listRules none => False
  | listRules (some verdict) => ∀ read, Verdict.parse verdict ≠ .ok read

/-- The request is to reset something that cannot be reset. -/
def NamesNoParameter (request : Request) : Prop :=
  ∃ parameter value, request = .reset parameter value ∧ parameter ≠ "login" ∧ parameter ≠ "ip"

end Request

/-! ## Arguments that cannot be read -/

/-- What cannot be read is refused without a number. -/
def Unnumbered {α : Type} (read : Except InputError α) : Prop :=
  ∀ error, read = .error error → error.code? = none

theorem Address.unnumbered_parse (text : String) : Unnumbered (Address.parse text) := by
  rw [Unnumbered, Address.parse]
  split <;> rintro _ ⟨⟩
  rfl

theorem Verdict.unnumbered_parse (text : String) : Unnumbered (Verdict.parse text) := by
  rw [Unnumbered, Verdict.parse]
  split <;> rintro _ ⟨⟩
  rfl

theorem Network.unnumbered_parse (text : String) : Unnumbered (Network.parse text) := by
  simp only [Unnumbered, Network.parse]
  split
  · split <;> rintro _ ⟨⟩
    rfl
  · rintro _ ⟨⟩
    rfl

theorem Listing.parse_eq_error {verdict network : String} {error : InputError}
    (failed : Listing.parse verdict network = .error error) :
    Verdict.parse verdict = .error error ∨ Network.parse network = .error error := by
  cases first : Verdict.parse verdict with
  | error fault =>
    simp only [Listing.parse, first, bind, Except.bind] at failed
    exact .inl (congrArg _ (Except.error.inj failed))
  | ok listed =>
    cases second : Network.parse network with
    | error fault =>
      simp only [Listing.parse, first, second, bind, Except.bind] at failed
      exact .inr (congrArg _ (Except.error.inj failed))
    | ok range =>
      have read : Listing.parse verdict network = .ok ⟨listed, range⟩ :=
        Listing.parse_eq_ok_iff.mpr ⟨first, second⟩
      cases failed.symm.trans read

private theorem ne_ok_of_error {α : Type} {read : Except InputError α} {error : InputError}
    (failed : read = .error error) (value : α) : read ≠ .ok value := by
  rw [failed]
  nofun

namespace Request

/-- Arguments that cannot be read are malformed, or are about something that cannot be reset. Only
the latter have a number. -/
theorem of_meaning_eq_error {request : Request} {error : InputError}
    (unread : request.meaning = .error error) :
    request.Malformed ∧ error.code? = none ∨
      request.NamesNoParameter ∧ error.code? = some 3006 := by
  cases request with
  | check login password address =>
    have failed := eq_error_of_map unread
    exact .inl ⟨ne_ok_of_error failed, Address.unnumbered_parse _ _ failed⟩
  | reset parameter value =>
    rcases ResetRequest.key_eq_error (eq_error_of_map unread) with ⟨login, ip, rfl⟩ | ⟨ip, failed⟩
    · exact .inr ⟨⟨parameter, value, rfl, login, ip⟩, rfl⟩
    · exact .inl ⟨⟨ip, ne_ok_of_error failed⟩, Address.unnumbered_parse _ _ failed⟩
  | addRule verdict network | deleteRule verdict network =>
    rcases Listing.parse_eq_error (eq_error_of_map unread) with failed | failed
    · exact .inl ⟨.inl (ne_ok_of_error failed), Verdict.unnumbered_parse _ _ failed⟩
    · exact .inl ⟨.inr (ne_ok_of_error failed), Network.unnumbered_parse _ _ failed⟩
  | listRules verdict =>
    cases verdict with
    | none => cases unread
    | some verdict =>
      have failed := eq_error_of_map unread
      exact .inl ⟨ne_ok_of_error failed, Verdict.unnumbered_parse _ _ failed⟩

/-- A request whose arguments can be read is neither. -/
theorem wellFormed_of_meaning {request : Request} {meaning : Meaning}
    (read : request.meaning = .ok meaning) :
    ¬ request.Malformed ∧ ¬ request.NamesNoParameter := by
  cases request with
  | check login password address =>
    obtain ⟨address, parsed, -⟩ := exists_of_map_eq_ok read
    exact ⟨fun unread => unread address parsed, nofun⟩
  | reset parameter value =>
    obtain ⟨key, parsed, -⟩ := exists_of_map_eq_ok read
    rcases ResetRequest.key_eq_ok_iff.mp parsed with ⟨named, -⟩ | ⟨named, address, parsed, -⟩
    · refine ⟨fun unread => absurd (named.symm.trans unread.1) (by decide), ?_⟩
      rintro ⟨_, _, ⟨⟩, login, -⟩
      exact login named
    · refine ⟨fun unread => unread.2 address parsed, ?_⟩
      rintro ⟨_, _, ⟨⟩, -, ip⟩
      exact ip named
  | addRule verdict network | deleteRule verdict network =>
    obtain ⟨listing, parsed, -⟩ := exists_of_map_eq_ok read
    obtain ⟨first, second⟩ := Listing.parse_eq_ok_iff.mp parsed
    exact ⟨fun unread => unread.elim (· _ first) (· _ second), nofun⟩
  | listRules verdict =>
    cases verdict with
    | none => exact ⟨id, nofun⟩
    | some verdict =>
      obtain ⟨verdict, parsed, -⟩ := exists_of_map_eq_ok read
      exact ⟨fun unread => unread verdict parsed, nofun⟩

theorem NamesNoParameter.not_malformed {request : Request} (unnamed : request.NamesNoParameter) :
    ¬ request.Malformed := by
  obtain ⟨_, _, rfl, -, ip⟩ := unnamed
  exact fun malformed => ip malformed.1

end Request

namespace Failing

open Service

variable {β : Type} [Limiter β]

/-- The failing befalls a request to a gate. The first call for an addition or a deletion is the
search; it is answered when no failure is planned for it. -/
def Befalls (gate : Gate (UnreliableStore MemoryStore) β) (request : Request) : Failing → Prop
  | duplicate => ∃ verdict network listing,
    request = .addRule verdict network ∧ Listing.parse verdict network = .ok listing ∧
      gate.store.plan gate.store.calls = none ∧
      ∃ rule ∈ gate.store.inner.rules, rule.network = listing.network
  | missing => ∃ verdict network listing,
    request = .deleteRule verdict network ∧ Listing.parse verdict network = .ok listing ∧
      gate.store.plan gate.store.calls = none ∧
      ∀ rule ∈ gate.store.inner.rules, rule.listing ≠ listing
  | store =>
    request.operation ∈ [.addRule, .deleteRule, .listRules] ∧
      gate.store.FailsUntil (handle gate request).2.store
  | parameter => request.NamesNoParameter
  | malformed => request.Malformed

/-- The failing befalls a line that is sent to a gate. -/
def BefallsLine (gate : Gate (UnreliableStore MemoryStore) β) (line : String) (failing : Failing) :
    Prop :=
  match decode line with
  | .ok request => failing.Befalls gate request
  | .error _ => failing = malformed

end Failing

/-- A check whose lookup fails denies the attempt as one that could not be judged. -/
theorem Gate.check_of_lookup_eq_error {σ β : Type} [RuleStore σ] [Limiter β] (gate : Gate σ β)
    (attempt : Attempt) {fault : StoreFault} (failed : gate.lookup attempt.address = .error fault) :
    (gate.check attempt).1 = outcomeFor attempt (some .internal) := by
  have looked : (answer (.rules (.search (.containing attempt.address)))
      (gate.store, gate.limiter)).1 = .error fault := failed
  rw [check, judge_eq, Procedure.run_ask, looked]
  rfl

namespace Service

variable {β : Type} [Limiter β] {gate : Gate (UnreliableStore MemoryStore) β} {request : Request}

omit [Limiter β] in
/-- What becomes of a task on the rules: the response reports a failing store exactly if a call of
the task fails, and else success or a failure of the task's own. -/
theorem respond_of_relays {α : Type} {own : RuleFault → Prop} {task : RuleBook.Task α}
    (relays : RuleBook.Relays own task) (gate : Gate (UnreliableStore MemoryStore) β)
    (success : α → Response) (succeeds : ∀ value, (success value).ok = true) :
    let ran := gate.onRules task
    let response := respond ruleFailure success ran.1
    gate.store.FailsUntil ran.2.store ∧ response.Reports .store ∨
      ¬ gate.store.FailsUntil ran.2.store ∧
        (response.ok = true ∨ ∃ fault, own fault ∧ ran.1 = .error fault) := by
  intro ran response
  rcases relays.run gate.store with ⟨fails, fault, failed⟩ | ⟨none, ⟨value, done⟩ | failed⟩
  · have told : response = ruleFailure (.store fault) := congrArg (respond _ _) failed
    exact .inl ⟨fails, told ▸ ⟨rfl, rfl, rfl⟩⟩
  · have told : response = success value := congrArg (respond _ _) done
    exact .inr ⟨none, .inl (told ▸ succeeds value)⟩
  · exact .inr ⟨none, .inr failed⟩

/-! ## Each failing is reported -/

theorem reports_of_meaning_eq_error (gate : Gate (UnreliableStore MemoryStore) β)
    {error : InputError} (unread : request.meaning = .error error) :
    request.Malformed ∧ (handle gate request).1.Reports .malformed ∨
      request.NamesNoParameter ∧ (handle gate request).1.Reports .parameter := by
  rw [handle_of_error unread]
  exact (Request.of_meaning_eq_error unread).imp (.imp_right fun code => ⟨rfl, rfl, code⟩)
    (.imp_right fun code => ⟨rfl, rfl, code⟩)

theorem reports_duplicate (befalls : Failing.duplicate.Befalls gate request) :
    (handle gate request).1.Reports .duplicate := by
  obtain ⟨verdict, network, listing, rfl, read, searched, taken⟩ := befalls
  have listed := Verdict.isListed_of_parse (Listing.parse_eq_ok_iff.mp read).1
  have failed : (gate.onRules (RuleBook.add listing)).1 = .error (.duplicate listing.network) :=
    (RuleBook.run_add_eq_duplicate_iff gate.store listed).mpr ⟨searched, taken⟩
  simp only [handle, onListing, read, failed]
  exact ⟨rfl, rfl, rfl⟩

theorem reports_missing (befalls : Failing.missing.Befalls gate request) :
    (handle gate request).1.Reports .missing := by
  obtain ⟨verdict, network, listing, rfl, read, searched, absent⟩ := befalls
  have listed := Verdict.isListed_of_parse (Listing.parse_eq_ok_iff.mp read).1
  have failed : (gate.onRules (RuleBook.delete listing)).1 =
      .error (.missing listing.verdict listing.network) :=
    (RuleBook.run_delete_eq_missing_iff gate.store listed).mpr ⟨searched, absent⟩
  simp only [handle, onListing, read, failed]
  exact ⟨rfl, rfl, rfl⟩

/-- What becomes of a request for the rules that can be read: it reports a failing store exactly if
one of its calls fails, and else it succeeds unless the rules speak against it. -/
theorem handle_rules_cases (gate : Gate (UnreliableStore MemoryStore) β) {request : Request}
    {meaning : Meaning} (read : request.meaning = .ok meaning)
    (rules : request.operation ∈ [.addRule, .deleteRule, .listRules]) :
    let answered := handle gate request
    gate.store.FailsUntil answered.2.store ∧ answered.1.Reports .store ∨
      ¬ gate.store.FailsUntil answered.2.store ∧
        (answered.1.ok = true ∨ Failing.duplicate.Befalls gate request ∨
          Failing.missing.Befalls gate request) := by
  rw [handle_of_meaning read]
  cases request with
  | check login password address => simp [Request.operation] at rules
  | reset parameter value => simp [Request.operation] at rules
  | addRule verdict network =>
    obtain ⟨listing, parsed, rfl⟩ := exists_of_map_eq_ok read
    have listed := Verdict.isListed_of_parse (Listing.parse_eq_ok_iff.mp parsed).1
    refine (respond_of_relays (RuleBook.relays_add listed) gate .ofRule fun _ => rfl).imp_right
      (.imp_right (.imp_right ?_))
    rintro ⟨_, rfl, failed⟩
    exact .inl ⟨_, _, listing, rfl, parsed,
      (RuleBook.run_add_eq_duplicate_iff gate.store listed).mp failed⟩
  | deleteRule verdict network =>
    obtain ⟨listing, parsed, rfl⟩ := exists_of_map_eq_ok read
    have listed := Verdict.isListed_of_parse (Listing.parse_eq_ok_iff.mp parsed).1
    refine (respond_of_relays (RuleBook.relays_delete listed) gate (fun () => .done)
      fun _ => rfl).imp_right (.imp_right (.imp_right ?_))
    rintro ⟨_, rfl, failed⟩
    exact .inr ⟨_, _, listing, rfl, parsed,
      (RuleBook.run_delete_eq_missing_iff gate.store listed).mp failed⟩
  | listRules verdict =>
    have listing (filter : Filter) :=
      respond_of_relays (RuleBook.relays_list filter) gate .ofRules fun _ => rfl
    cases verdict with
    | none =>
      obtain rfl := Except.ok.inj read
      exact (listing _).imp_right (.imp_right (.imp_right fun ⟨_, never, _⟩ => never.elim))
    | some verdict =>
      obtain ⟨verdict, -, rfl⟩ := exists_of_map_eq_ok read
      exact (listing _).imp_right (.imp_right (.imp_right fun ⟨_, never, _⟩ => never.elim))

theorem reports_store (befalls : Failing.store.Befalls gate request) :
    (handle gate request).1.Reports .store := by
  obtain ⟨rules, fails⟩ := befalls
  cases read : request.meaning with
  | error error =>
    rw [handle_of_error read] at fails
    exact absurd fails gate.store.not_failsUntil_self
  | ok meaning =>
    rcases handle_rules_cases gate read rules with ⟨-, reports⟩ | ⟨none, -⟩
    · exact reports
    · exact absurd fails none

theorem reports_malformed (malformed : request.Malformed) :
    (handle gate request).1.Reports .malformed := by
  cases read : request.meaning with
  | ok meaning => exact absurd malformed (Request.wellFormed_of_meaning read).1
  | error error =>
    rcases reports_of_meaning_eq_error gate read with ⟨-, reports⟩ | ⟨unnamed, -⟩
    · exact reports
    · exact absurd malformed unnamed.not_malformed

theorem reports_parameter (unnamed : request.NamesNoParameter) :
    (handle gate request).1.Reports .parameter := by
  cases read : request.meaning with
  | ok meaning => exact absurd unnamed (Request.wellFormed_of_meaning read).2
  | error error =>
    rcases reports_of_meaning_eq_error gate read with ⟨malformed, -⟩ | ⟨-, reports⟩
    · exact absurd malformed unnamed.not_malformed
    · exact reports

/-! ## Nothing else is -/

/-- A check or a reset whose arguments can be read succeeds. -/
theorem ok_of_meaning {meaning : Meaning} (read : request.meaning = .ok meaning)
    (other : request.operation ∉ [.addRule, .deleteRule, .listRules]) :
    (handle gate request).1.ok = true := by
  rw [handle_of_meaning read]
  cases request with
  | check login password address =>
    obtain ⟨address, -, rfl⟩ := exists_of_map_eq_ok read
    rfl
  | reset parameter value =>
    obtain ⟨key, -, rfl⟩ := exists_of_map_eq_ok read
    rfl
  | addRule verdict network | deleteRule verdict network | listRules verdict =>
    simp [Request.operation] at other

/-- A request that no failing befalls succeeds. -/
theorem ok_or_befalls (gate : Gate (UnreliableStore MemoryStore) β) (request : Request) :
    (handle gate request).1.ok = true ∨ ∃ failing : Failing, failing.Befalls gate request := by
  cases read : request.meaning with
  | error error =>
    rcases reports_of_meaning_eq_error gate read with ⟨malformed, -⟩ | ⟨unnamed, -⟩
    · exact .inr ⟨.malformed, malformed⟩
    · exact .inr ⟨.parameter, unnamed⟩
  | ok meaning =>
    by_cases rules : request.operation ∈ [.addRule, .deleteRule, .listRules]
    · rcases handle_rules_cases gate read rules with ⟨fails, -⟩ | ⟨-, done | listed | absent⟩
      · exact .inr ⟨.store, rules, fails⟩
      · exact .inl done
      · exact .inr ⟨.duplicate, listed⟩
      · exact .inr ⟨.missing, absent⟩
    · exact .inl (ok_of_meaning read rules)

/-- Whatever befalls a request is what its response reports, and nothing else. -/
theorem reports_iff_befalls (gate : Gate (UnreliableStore MemoryStore) β) (request : Request)
    (failing : Failing) :
    (handle gate request).1.Reports failing ↔ failing.Befalls gate request := by
  have told {failing : Failing} (befalls : failing.Befalls gate request) :
      (handle gate request).1.Reports failing := by
    cases failing with
    | duplicate => exact reports_duplicate befalls
    | missing => exact reports_missing befalls
    | store => exact reports_store befalls
    | parameter => exact reports_parameter befalls
    | malformed => exact reports_malformed befalls
  refine ⟨fun reports => ?_, told⟩
  rcases ok_or_befalls gate request with done | ⟨other, befalls⟩
  · cases reports.ok.symm.trans done
  · rwa [reports.unique (told befalls)]

/-- Whatever the line, the state of the service and the calls that fail: each failing is reported,
by its kind and its number, exactly when it befalls the line, and the response is a success exactly
when none does. A check of an address that can be read always succeeds; if its lookup fails, the
attempt is denied as one that could not be judged. -/
theorem handleLine_reports_iff (gate : Gate (UnreliableStore MemoryStore) β) (line : String) :
    let response := (handleLine gate line).1
    (∀ failing : Failing, response.Reports failing ↔ failing.BefallsLine gate line) ∧
    (response.ok = true ↔ ∀ failing : Failing, ¬ failing.BefallsLine gate line) ∧
    ∀ login password text address,
      decode line = .ok (.check login password text) → Address.parse text = .ok address →
        (∃ outcome, response = .ofOutcome outcome) ∧ response.ok = true ∧
        (gate.store.plan gate.store.calls ≠ none →
          response.admitted = some false ∧ response.reason = some .internal ∧
            response.code = some 3001) := by
  intro response
  have reports_iff (failing : Failing) :
      response.Reports failing ↔ failing.BefallsLine gate line := by
    rw [Failing.BefallsLine, show response = (handleLine gate line).1 from rfl, handleLine]
    cases decode line with
    | ok request => exact reports_iff_befalls gate request failing
    | error fault =>
      have reports : (malformedRequest fault).Reports .malformed := ⟨rfl, rfl, rfl⟩
      exact ⟨fun other => other.unique reports, fun same => same ▸ reports⟩
  refine ⟨reports_iff, ⟨fun done failing befalls => ?_, fun none => ?_⟩, ?_⟩
  · cases ((reports_iff failing).mpr befalls).ok.symm.trans done
  · simp only [Failing.BefallsLine] at none
    rw [show response = (handleLine gate line).1 from rfl, handleLine]
    cases decoded : decode line with
    | ok request =>
      rw [decoded] at none
      exact (ok_or_befalls gate request).resolve_right fun ⟨failing, befalls⟩ => none failing befalls
    | error fault =>
      rw [decoded] at none
      exact absurd rfl (none .malformed)
  · intro login password text address decoded parsed
    have told : response = .ofOutcome (gate.check ⟨login, password, address⟩).1 := by
      simp only [response, handleLine, decoded, handle, Gate.checkText, parsed]
      rfl
    refine ⟨⟨_, told⟩, congrArg Response.ok told, fun planned => ?_⟩
    obtain ⟨fault, planned⟩ := Option.ne_none_iff_exists'.mp planned
    have failed : gate.lookup address = .error fault :=
      congrArg Prod.fst (UnreliableStore.answer_of_some planned _)
    rw [told, gate.check_of_lookup_eq_error ⟨login, password, address⟩ failed]
    exact ⟨rfl, rfl, rfl⟩

/-- One range is denied. Each failing is reported for a line that it befalls; the call that fails is
the second one, which is to store a rule. Other lines succeed, a check even when its lookup is the
call that fails. -/
theorem handleLine_reports_iff_of_denied :
    let wide : Network := ⟨⟨.v4, 0x0A00_0000, by decide⟩, 8, by decide⟩
    let gate (failing : Nat) : Gate (UnreliableStore MemoryStore) (UnreliableLimiter Registry) :=
      { store :=
          { inner := (MemoryStore.empty ⟨0, 0⟩ RuleId.ofNat).add ⟨.deny, wide⟩
            plan := fun call => if call = failing then some (.unavailable "offline") else none }
        limiter := .reliable .empty
        window := ⟨100, by decide, by decide⟩
        limits := {} }
    let reported (failing : Nat) (line : String) : Bool × Option String × Option Nat :=
      let response := (handleLine (gate failing) line).1
      (response.ok, response.kind, response.code)
    let attempt := "[\"check\",\"root\",\"guess\",\"11.0.0.1\"]"
    reported 1 "[\"add_rule\",\"allow\",\"10.9.9.9/8\"]" =
        (false, some "invalid_argument", some 2001) ∧
      reported 1 "[\"delete_rule\",\"allow\",\"10.0.0.0/8\"]" = (false, some "not_found", none) ∧
      reported 1 "[\"add_rule\",\"allow\",\"11.0.0.0/8\"]" = (false, some "internal", some 3001) ∧
      reported 1 "[\"reset\",\"password\",\"guess\"]" =
        (false, some "invalid_argument", some 3006) ∧
      reported 1 "[\"add_rule\",\"allow\",\"11.0.0.0\"]" =
        (false, some "invalid_argument", none) ∧
      reported 1 "\x7b\x7d" = (false, some "invalid_argument", none) ∧
      (handleLine (gate 1) "[\"list_rules\",null]").1.ok = true ∧
      reported 0 attempt = (true, none, some 3001) ∧
      (handleLine (gate 0) attempt).1.admitted = some false := by
  intro wide gate reported attempt
  have told {failing : Failing} {call : Nat} {line : String}
      (befalls : failing.BefallsLine (gate call) line) :
      reported call line = (false, some failing.kind, failing.code?) := by
    obtain ⟨ok, kind, code⟩ := ((handleLine_reports_iff (gate call) line).1 failing).mpr befalls
    exact Prod.ext ok (Prod.ext kind code)
  have befalls {failing : Failing} {call : Nat} {line : String} {request : Request}
      (decoded : decode line = .ok request) (befalls : failing.Befalls (gate call) request) :
      failing.BefallsLine (gate call) line := by
    rw [Failing.BefallsLine, decoded]
    exact befalls
  have taken : Failing.duplicate.Befalls (gate 1) (.addRule "allow" "10.9.9.9/8") :=
    ⟨_, _, ⟨.allow, wide⟩, rfl, by decide +kernel, rfl, _, List.mem_singleton_self _, rfl⟩
  have missing : Failing.missing.Befalls (gate 1) (.deleteRule "allow" "10.0.0.0/8") :=
    ⟨_, _, ⟨.allow, wide⟩, rfl, by decide +kernel, rfl, by decide⟩
  have offline : Failing.store.Befalls (gate 1) (.addRule "allow" "11.0.0.0/8") :=
    ⟨by decide, 1, by decide, by decide +kernel, by decide⟩
  have unnamed : Failing.parameter.Befalls (gate 1) (.reset "password" "guess") :=
    ⟨_, _, rfl, by decide, by decide⟩
  have noLength : Network.parse "11.0.0.0" =
      .error (.malformedNetwork "11.0.0.0" .missingLength) := by decide +kernel
  have unread : Failing.malformed.Befalls (gate 1) (.addRule "allow" "11.0.0.0") :=
    .inr (ne_ok_of_error noLength)
  have noRequest : Failing.malformed.BefallsLine (gate 1) "\x7b\x7d" := by
    have decoded : decode "\x7b\x7d" = .error (.mismatch (.missingField "op")) := by decide +kernel
    rw [Failing.BefallsLine, decoded]
  have listed (failing : Failing) : ¬ failing.BefallsLine (gate 1) "[\"list_rules\",null]" := by
    have decoded : decode "[\"list_rules\",null]" = .ok (.listRules none) := by decide +kernel
    have calls : (handle (gate 1) (.listRules none)).2.store.calls = 1 := by decide +kernel
    rw [Failing.BefallsLine, decoded]
    cases failing with
    | duplicate => rintro ⟨_, _, _, ⟨⟩, -⟩
    | missing => rintro ⟨_, _, _, ⟨⟩, -⟩
    | store =>
      rintro ⟨-, call, -, asked, fails⟩
      rw [calls, Nat.lt_one_iff] at asked
      exact fails (asked ▸ rfl)
    | parameter => rintro ⟨_, _, ⟨⟩, -⟩
    | malformed => exact id
  obtain ⟨⟨_, judged⟩, done, denied⟩ := (handleLine_reports_iff (gate 0) attempt).2.2 "root" "guess"
    "11.0.0.1" ⟨.v4, 0x0B00_0001, by decide⟩ (by decide +kernel) (by decide +kernel)
  obtain ⟨admitted, -, code⟩ := denied (by decide)
  exact ⟨told (befalls (by decide +kernel) taken), told (befalls (by decide +kernel) missing),
    told (befalls (by decide +kernel) offline), told (befalls (by decide +kernel) unnamed),
    told (befalls (by decide +kernel) unread), told noRequest,
    (handleLine_reports_iff (gate 1) _).2.1.mpr listed,
    Prod.ext done (Prod.ext (congrArg Response.kind judged) code), admitted⟩

end Service
end LoginGate
