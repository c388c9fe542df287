import LoginGate.Console.Command
import LoginGate.Proofs.Gate.Reset
import LoginGate.Proofs.Network.RoundTrip
import LoginGate.Proofs.Service.Meaning
import LoginGate.Proofs.Wire.RoundTrip

/-! # The console and the service agree

The console reads the arguments of a command, and sends what it has read as text. The service reads
that text as what the operator typed, because ranges and addresses are read back from their texts.
So a request of the console is not refused for its arguments, and the console refuses no arguments
that the service would take.
-/

namespace LoginGate

theorem Verdict.parse_name {verdict : Verdict} (listed : verdict.isListed = true) :
    parse verdict.name = .ok verdict := by
  rw [parse, ofName?_name, Option.filter_some, if_pos listed]

theorem Network.parse_toString_of_parse {text : String} {network : Network}
    (read : parse text = .ok network) : parse (toString network) = .ok network := by
  obtain ⟨-, spelled, -, rfl⟩ := parse_eq_ok_iff.mp read
  rw [parse_toString, masked_masked]

theorem Address.parse_toString_of_parse {text : String} {address : Address}
    (read : parse text = .ok address) : parse (toString address) = .ok address := by
  obtain ⟨spelled, -, rfl⟩ := parse_eq_ok_iff.mp read
  rw [parse_toString, canonical_canonical]

namespace Command

/-! ## What is typed -/

def wordsOf (line : String) : List String :=
  (Text.words line.toList).map String.ofList

/-- The verdict of a list of this color. -/
def colorVerdict? : String → Option Verdict
  | "white" => some .allow
  | "black" => some .deny
  | _ => none

/-- The request that some words ask for, its arguments as they are typed. -/
def typed? : List String → Option Request
  | ["add", color, network] =>
    (colorVerdict? color).map fun verdict => .addRule verdict.name network
  | ["rm", color, network] =>
    (colorVerdict? color).map fun verdict => .deleteRule verdict.name network
  | ["reset", parameter, value] => some (.reset parameter value)
  | ["list"] => some (.listRules none)
  | ["list", color] => (colorVerdict? color).map fun verdict => .listRules (some verdict.name)
  | _ => none

theorem colorVerdict?_eq_some_iff {color : String} {verdict : Verdict} :
    colorVerdict? color = some verdict ↔
      color = "white" ∧ verdict = .allow ∨ color = "black" ∧ verdict = .deny := by
  fun_cases colorVerdict? color with
  | case1 => simp [eq_comm]
  | case2 => simp [eq_comm]
  | case3 _ white black =>
    constructor
    · nofun
    · rintro (⟨same, -⟩ | ⟨same, -⟩)
      · exact (white same).elim
      · exact (black same).elim

theorem isListed_of_colorVerdict? {color : String} {verdict : Verdict}
    (colored : colorVerdict? color = some verdict) : verdict.isListed = true := by
  rcases colorVerdict?_eq_some_iff.mp colored with ⟨-, rfl⟩ | ⟨-, rfl⟩ <;> rfl

/-! ## What is read -/

theorem listVerdict_eq_ok_iff {color : String} {verdict : Verdict} :
    listVerdict color = .ok verdict ↔ colorVerdict? color = some verdict := by
  rw [colorVerdict?_eq_some_iff]
  by_cases white : color = "white"
  · subst white
    cases verdict <;> decide
  · by_cases black : color = "black"
    · subst black
      cases verdict <;> decide
    · simp [listVerdict, white, black]

/-- A listing is read from a color and from a range that the service can read as well. -/
theorem listing_eq_ok_iff {color network : String} {listing : Listing} :
    Command.listing color network = .ok listing ↔
      colorVerdict? color = some listing.verdict ∧ Network.parse network = .ok listing.network := by
  rw [Command.listing, ← listVerdict_eq_ok_iff]
  cases listVerdict color with
  | error fault => exact ⟨nofun, nofun⟩
  | ok verdict =>
    cases Network.parse network with
    | error fault => exact ⟨nofun, nofun⟩
    | ok network =>
      obtain ⟨_, _⟩ := listing
      constructor
      · rintro ⟨⟩
        exact ⟨rfl, rfl⟩
      · rintro ⟨⟨⟩, ⟨⟩⟩
        rfl

/-- The service reads a listing from what was typed, and from its texts. -/
theorem parse_of_listing {color network : String} {listing : Listing}
    (read : Command.listing color network = .ok listing) :
    Listing.parse listing.verdict.name network = .ok listing ∧
      Listing.parse listing.verdict.name (toString listing.network) = .ok listing := by
  obtain ⟨colored, parsed⟩ := listing_eq_ok_iff.mp read
  have named := Verdict.parse_name (isListed_of_colorVerdict? colored)
  exact ⟨Listing.parse_eq_ok_iff.mpr ⟨named, parsed⟩,
    Listing.parse_eq_ok_iff.mpr ⟨named, Network.parse_toString_of_parse parsed⟩⟩

/-- The service reads a key from what was typed, and the same key from what is sent. -/
theorem key_of_resetOf {parameter value : String} {command : Command}
    (read : resetOf parameter value = .ok command) :
    ∃ (aspect : Aspect) (sent key : String), command = .reset aspect sent ∧
      ResetRequest.key ⟨parameter, value⟩ = .ok key ∧
      ResetRequest.key ⟨aspect.name, sent⟩ = .ok key := by
  rw [resetOf] at read
  split at read
  · next login =>
    obtain rfl := Except.ok.inj read
    exact ⟨.login, value, _, rfl, ResetRequest.key_eq_ok_iff.mpr (.inl ⟨login, rfl⟩),
      ResetRequest.key_eq_ok_iff.mpr (.inl ⟨rfl, rfl⟩)⟩
  · split at read
    · next ip =>
      cases parsed : Address.parse value with
      | error fault =>
        rw [parsed] at read
        cases read
      | ok address =>
        rw [parsed] at read
        obtain rfl := Except.ok.inj read
        exact ⟨.address, toString address, _, rfl,
          ResetRequest.key_eq_ok_iff.mpr (.inr ⟨ip, address, parsed, rfl⟩),
          ResetRequest.key_eq_ok_iff.mpr
            (.inr ⟨rfl, address, Address.parse_toString_of_parse parsed, rfl⟩)⟩
    · cases read

/-- A request about a listing means with the listing's texts what it means with those typed. -/
private theorem exists_typed_of_listing (make : String → String → Request)
    (means : Listing → Meaning)
    (reads : ∀ verdict network,
      (make verdict network).meaning = (Listing.parse verdict network).map means)
    {color network : String} {listing : Listing}
    (parsed : Command.listing color network = .ok listing) :
    ∃ typed meaning, (colorVerdict? color).map (fun verdict => make verdict.name network) =
        some typed ∧ typed.meaning = .ok meaning ∧
      (make listing.verdict.name (toString listing.network)).meaning = .ok meaning := by
  obtain ⟨typed, sent⟩ := parse_of_listing parsed
  refine ⟨make listing.verdict.name network, means listing, ?_, ?_, ?_⟩
  · rw [(listing_eq_ok_iff.mp parsed).1, Option.map_some]
  · rw [reads, typed, Except.map]
  · rw [reads, sent, Except.map]

/-- A command is sent as a request that means what was typed. -/
theorem exists_typed {words : List String} {command : Command} {request : Request}
    (read : ofWords words = .ok command) (sends : command.request? = some request) :
    ∃ typed meaning, typed? words = some typed ∧ typed.meaning = .ok meaning ∧
      request.meaning = .ok meaning := by
  revert read
  -- One case for each shape of the words; those that are no command or send nothing come last.
  fun_cases ofWords words with
  | case2 color network =>
    intro read
    obtain ⟨listing, parsed, rfl⟩ := exists_of_map_eq_ok read
    obtain rfl := Option.some.inj sends
    exact exists_typed_of_listing .addRule .add (fun _ _ => rfl) parsed
  | case4 color network =>
    intro read
    obtain ⟨listing, parsed, rfl⟩ := exists_of_map_eq_ok read
    obtain rfl := Option.some.inj sends
    exact exists_typed_of_listing .deleteRule .delete (fun _ _ => rfl) parsed
  | case6 parameter value =>
    intro read
    obtain ⟨aspect, shown, key, rfl, typed, sent⟩ := key_of_resetOf read
    obtain rfl := Option.some.inj sends
    exact ⟨.reset parameter value, .reset key, rfl, congrArg (Except.map Meaning.reset) typed,
      congrArg (Except.map Meaning.reset) sent⟩
  | case8 =>
    rintro ⟨⟩
    obtain rfl := Option.some.inj sends
    exact ⟨.listRules none, .list none, rfl, rfl, rfl⟩
  | case9 color =>
    intro read
    obtain ⟨_, chosen, rfl⟩ := exists_of_map_eq_ok read
    obtain ⟨verdict, colored, rfl⟩ := exists_of_map_eq_ok chosen
    obtain rfl := Option.some.inj sends
    have colored := listVerdict_eq_ok_iff.mp colored
    have named := Verdict.parse_name (isListed_of_colorVerdict? colored)
    have meaning : (Request.listRules (some verdict.name)).meaning = .ok (.list (some verdict)) := by
      rw [Request.meaning, named]
      rfl
    refine ⟨_, _, ?_, meaning, meaning⟩
    rw [typed?, colored]
    rfl
  | case11 | case12 | case13 =>
    rintro ⟨⟩
    cases sends
  | _ => nofun

/-! ## What is refused -/

/-- A range that the console refuses, the service cannot read either. -/
theorem error_of_listing {color network : String} {verdict : Verdict} {fault : Fault}
    (colored : colorVerdict? color = some verdict)
    (refused : Command.listing color network = .error fault) :
    ∃ error, Listing.parse verdict.name network = .error error := by
  cases parsed : Listing.parse verdict.name network with
  | error error => exact ⟨error, rfl⟩
  | ok listing =>
    obtain ⟨named, range⟩ := Listing.parse_eq_ok_iff.mp parsed
    have same := Verdict.parse_name (isListed_of_colorVerdict? colored)
    obtain rfl : verdict = listing.verdict := Except.ok.inj (same.symm.trans named)
    cases refused.symm.trans (listing_eq_ok_iff.mpr ⟨colored, range⟩)

theorem error_of_resetOf {parameter value : String} {fault : Fault}
    (refused : resetOf parameter value = .error fault) :
    ∃ error, ResetRequest.key ⟨parameter, value⟩ = .error error := by
  cases parsed : ResetRequest.key ⟨parameter, value⟩ with
  | error error => exact ⟨error, rfl⟩
  | ok key =>
    rw [resetOf] at refused
    rcases ResetRequest.key_eq_ok_iff.mp parsed with ⟨login, -⟩ | ⟨ip, address, read, -⟩
    · rw [if_pos login] at refused
      cases refused
    · have other : parameter ≠ "login" := by
        rintro rfl
        exact absurd (show "login" = "ip" from ip) (by decide)
      rw [if_neg other, if_pos ip, show Address.parse value = .ok address from read] at refused
      cases refused

/-! ## Lines -/

/-- A line that is a command with a request is answered as if its arguments had been sent as they
were typed, whatever the state of the service, and they are never refused. A line to add or remove
a range or to reset a bucket is rejected only if the service cannot read the same arguments, and a
line to show a list of either color is not rejected. -/
theorem request_means_as_typed {σ β : Type} [RuleStore σ] [Limiter β] (gate : Gate σ β)
    (line : String) :
    (∀ command request, parse line = .ok command → command.request? = some request →
      ∃ typed, typed? (wordsOf line) = some typed ∧
        Service.handleLine gate request.toJson.toText = Service.handle gate typed ∧
        ∀ error, (Service.handleLine gate request.toJson.toText).1 ≠ Service.inputFailure error) ∧
    ∀ fault, parse line = .error fault →
      (∀ color verdict network, colorVerdict? color = some verdict →
        wordsOf line = ["add", color, network] ∨ wordsOf line = ["rm", color, network] →
          ∃ error, Listing.parse verdict.name network = .error error) ∧
      (∀ parameter value, wordsOf line = ["reset", parameter, value] →
        ∃ error, ResetRequest.key ⟨parameter, value⟩ = .error error) ∧
      ∀ color verdict, colorVerdict? color = some verdict → wordsOf line ≠ ["list", color] := by
  constructor
  · intro command request read sends
    obtain ⟨typed, meaning, asked, typing, sending⟩ := exists_typed read sends
    have answered : Service.handleLine gate request.toJson.toText = Service.handle gate request := by
      rw [Service.handleLine, Service.decode_toText]
    rw [answered]
    refine ⟨typed, asked, ?_, Service.handle_ne_inputFailure sending gate⟩
    rw [Service.handle_of_meaning sending, Service.handle_of_meaning typing]
  · intro fault rejected
    change ofWords (wordsOf line) = .error fault at rejected
    refine ⟨fun color verdict network colored words => ?_, fun parameter value words => ?_,
      fun color verdict colored words => ?_⟩
    · rcases words with words | words
      all_goals
        rw [words, ofWords] at rejected
        cases read : Command.listing color network with
        | error fault => exact error_of_listing colored read
        | ok listing =>
          rw [read] at rejected
          cases rejected
    · rw [words, ofWords] at rejected
      exact error_of_resetOf rejected
    · rw [words, ofWords, listVerdict_eq_ok_iff.mpr colored] at rejected
      cases rejected

/-- A netmask and host bits are sent as a prefix length and the first address of the range, and the
service adds the same rule. -/
theorem request_means_as_typed_of_mask :
    let gate : Gate MemoryStore Registry :=
      { store := .empty ⟨0, 0⟩ RuleId.ofNat
        limiter := .empty
        window := ⟨100, by decide, by decide⟩
        limits := {} }
    let line := " add white\t10.1.2.3/255.0.0.0"
    let sent : Request := .addRule "allow" "10.0.0.0/8"
    let typed : Request := .addRule "allow" "10.1.2.3/255.0.0.0"
    (∃ command, parse line = .ok command ∧ command.request? = some sent) ∧
      Service.handleLine gate sent.toJson.toText = Service.handle gate typed := by
  intro gate line sent typed
  let range : Network := ⟨⟨.v4, 0x0A00_0000, by decide⟩, 8, by decide⟩
  have read : parse line = .ok (.add ⟨.allow, range⟩) := by decide +kernel
  have sends : (Command.add ⟨.allow, range⟩).request? = some sent := by decide +kernel
  obtain ⟨asked, words, answered, -⟩ := (request_means_as_typed gate line).1 _ sent read sends
  have same : typed? (wordsOf line) = some typed := by decide +kernel
  obtain rfl := Option.some.inj (same.symm.trans words)
  exact ⟨⟨_, read, sends⟩, answered⟩

end Command
end LoginGate
