import LoginGate.Proofs.Procedure
import LoginGate.Service

/-! # What requests mean

A request is answered by what its arguments mean, not by how they are spelled: the service reads them
and then forgets the spelling. A request is refused for its arguments exactly when they cannot be
read, and then nothing happens.
-/

namespace LoginGate

theorem exists_of_map_eq_ok {ε α γ : Type} {f : α → γ} {source : Except ε α} {value : γ}
    (mapped : source.map f = .ok value) : ∃ origin, source = .ok origin ∧ f origin = value := by
  cases source with
  | error fault => cases mapped
  | ok origin => exact ⟨origin, rfl, Except.ok.inj mapped⟩

theorem eq_error_of_map {ε α γ : Type} {f : α → γ} {source : Except ε α} {error : ε}
    (mapped : source.map f = .error error) : source = .error error := by
  cases source with
  | error fault => exact congrArg Except.error (Except.error.inj mapped)
  | ok origin => cases mapped

/-- What is asked by a request once its arguments are read. -/
inductive Meaning where
  | check (attempt : Attempt)
  | reset (key : String)
  | add (listing : Listing)
  | delete (listing : Listing)
  | list (verdict : Option Verdict)

/-- What a request asks, unless an argument cannot be read. -/
def Request.meaning : Request → Except InputError Meaning
  | .check login password address =>
    (Address.parse address).map fun address => .check ⟨login, password, address⟩
  | .reset parameter value => (ResetRequest.key ⟨parameter, value⟩).map .reset
  | .addRule verdict network => (Listing.parse verdict network).map .add
  | .deleteRule verdict network => (Listing.parse verdict network).map .delete
  | .listRules none => .ok (.list none)
  | .listRules (some verdict) => (Verdict.parse verdict).map fun verdict => .list (some verdict)

namespace RuleBook

/-- The rule book does not object to the listing or the filter itself. -/
def Accepted {α : Type} (result : Except RuleFault α) : Prop :=
  ∀ error, result ≠ .error (.input error)

theorem yields_list (filter : Filter) : (list filter).Yields Accepted := by
  apply Procedure.Yields.ask
  rintro (fault | rules) <;> exact .done nofun

theorem yields_add {listing : Listing} (listed : listing.verdict.isListed = true) :
    (add listing).Yields Accepted := by
  rw [add, if_pos listed]
  apply Procedure.Yields.ask
  rintro (fault | ⟨⟩ | ⟨rule, others⟩)
  · exact .done nofun
  · apply Procedure.Yields.ask
    rintro (fault | rule) <;> exact .done nofun
  · exact .done nofun

theorem yields_delete {listing : Listing} (listed : listing.verdict.isListed = true) :
    (delete listing).Yields Accepted := by
  rw [delete, find, if_pos listed]
  apply Procedure.Yields.ask
  rintro (fault | ⟨⟩ | ⟨rule, others⟩)
  · exact .done nofun
  · exact .done nofun
  · apply Procedure.Yields.ask
    rintro (fault | done) <;> exact .done nofun

end RuleBook

namespace Service

variable {σ β : Type} [RuleStore σ] [Limiter β]

/-- Carries out what is asked. -/
def carryOut (gate : Gate σ β) : Meaning → Response × Gate σ β
  | .check attempt =>
    let (outcome, gate) := gate.check attempt
    (.ofOutcome outcome, gate)
  | .reset key =>
    let (found, gate) := gate.resetKey key
    (.ofFound found, gate)
  | .add listing =>
    let (result, gate) := gate.onRules (RuleBook.add listing)
    (respond ruleFailure .ofRule result, gate)
  | .delete listing =>
    let (result, gate) := gate.onRules (RuleBook.delete listing)
    (respond ruleFailure (fun () => .done) result, gate)
  | .list none => listRules gate .everything
  | .list (some verdict) => listRules gate (Filter.everything.withVerdict verdict)

/-- A request is answered by what it means. -/
theorem handle_of_meaning {request : Request} {meaning : Meaning}
    (read : request.meaning = .ok meaning) (gate : Gate σ β) :
    handle gate request = carryOut gate meaning := by
  cases request with
  | check login password address =>
    obtain ⟨address, parsed, rfl⟩ := exists_of_map_eq_ok read
    rw [handle, Gate.checkText, parsed]
    rfl
  | reset parameter value =>
    obtain ⟨key, parsed, rfl⟩ := exists_of_map_eq_ok read
    rw [handle, Gate.reset, parsed]
    rfl
  | addRule verdict network | deleteRule verdict network =>
    obtain ⟨listing, parsed, rfl⟩ := exists_of_map_eq_ok read
    rw [handle, onListing, parsed]
    rfl
  | listRules verdict =>
    cases verdict with
    | none =>
      obtain rfl := Except.ok.inj read
      rfl
    | some verdict =>
      obtain ⟨verdict, parsed, rfl⟩ := exists_of_map_eq_ok read
      rw [handle, parsed]
      rfl

/-- A request that cannot be read is refused, and nothing happens. -/
theorem handle_of_error {request : Request} {error : InputError}
    (unread : request.meaning = .error error) (gate : Gate σ β) :
    handle gate request = (inputFailure error, gate) := by
  cases request with
  | check login password address =>
    rw [handle, Gate.checkText, eq_error_of_map unread]
    rfl
  | reset parameter value =>
    rw [handle, Gate.reset, eq_error_of_map unread]
    rfl
  | addRule verdict network | deleteRule verdict network =>
    rw [handle, onListing, eq_error_of_map unread]
  | listRules verdict =>
    cases verdict with
    | none => cases unread
    | some verdict => rw [handle, eq_error_of_map unread]

/-- Failures over the rules are told apart from rejected input by their kinds and numbers. -/
private theorem ruleFailure_ne_inputFailure {fault : RuleFault}
    (other : ∀ error, fault ≠ .input error) (error : InputError) :
    ruleFailure fault ≠ inputFailure error := by
  intro same
  cases fault with
  | input error => exact other error rfl
  | duplicate network =>
    have codes : some Code.duplicateNetwork = error.code? := congrArg Response.code same
    cases error <;> cases codes
  | missing verdict network =>
    have kinds : some "not_found" = some "invalid_argument" := congrArg Response.kind same
    exact absurd kinds (by decide)
  | store fault =>
    have kinds : some "internal" = some "invalid_argument" := congrArg Response.kind same
    exact absurd kinds (by decide)

private theorem respond_ne_inputFailure {α : Type} {result : Except RuleFault α}
    (accepted : RuleBook.Accepted result) {success : α → Response}
    (succeeds : ∀ value, (success value).ok = true) (error : InputError) :
    respond ruleFailure success result ≠ inputFailure error := by
  cases result with
  | ok value =>
    intro same
    have done : (inputFailure error).ok = true := same ▸ succeeds value
    cases done
  | error fault =>
    exact ruleFailure_ne_inputFailure (fun error same => accepted error (congrArg _ same)) error

omit [Limiter β] in
private theorem listRules_ne_inputFailure (gate : Gate σ β) (filter : Filter)
    (error : InputError) : (listRules gate filter).1 ≠ inputFailure error :=
  respond_ne_inputFailure ((RuleBook.yields_list filter).run gate.store) (fun _ => rfl) error

/-- A request whose arguments can be read is not refused for them, whatever the rule store does. -/
theorem handle_ne_inputFailure {request : Request} {meaning : Meaning}
    (read : request.meaning = .ok meaning) (gate : Gate σ β) (error : InputError) :
    (handle gate request).1 ≠ inputFailure error := by
  rw [handle_of_meaning read]
  cases request with
  | check login password address =>
    obtain ⟨address, -, rfl⟩ := exists_of_map_eq_ok read
    exact fun same => nomatch congrArg Response.ok same
  | reset parameter value =>
    obtain ⟨key, -, rfl⟩ := exists_of_map_eq_ok read
    exact fun same => nomatch congrArg Response.ok same
  | addRule verdict network =>
    obtain ⟨listing, parsed, rfl⟩ := exists_of_map_eq_ok read
    have listed := Verdict.isListed_of_parse (Listing.parse_eq_ok_iff.mp parsed).1
    exact respond_ne_inputFailure ((RuleBook.yields_add listed).run gate.store) (fun _ => rfl) error
  | deleteRule verdict network =>
    obtain ⟨listing, parsed, rfl⟩ := exists_of_map_eq_ok read
    have listed := Verdict.isListed_of_parse (Listing.parse_eq_ok_iff.mp parsed).1
    exact respond_ne_inputFailure ((RuleBook.yields_delete listed).run gate.store) (fun _ => rfl)
      error
  | listRules verdict =>
    cases verdict with
    | none =>
      obtain rfl := Except.ok.inj read
      exact listRules_ne_inputFailure gate _ error
    | some verdict =>
      obtain ⟨verdict, -, rfl⟩ := exists_of_map_eq_ok read
      exact listRules_ne_inputFailure gate _ error

end Service
end LoginGate
