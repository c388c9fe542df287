import LoginGate.Proofs.Gate.Lists
import LoginGate.Proofs.Network.Coverage

/-! # Listing a range

Ranges and addresses are read in different ways: a range loses its host bits, an address that stands
for an IPv4 address becomes one. A range on the lists still decides about every address that it
names, once the address is in canonical form.
-/

namespace LoginGate.Gate

/-- The gate after an outcome that the lists decided. -/
def recorded {σ β : Type} (gate : Gate σ β) (outcome : Outcome) : Gate σ β :=
  { gate with tally := gate.tally.record outcome }

section

variable {gate : Gate MemoryStore (UnreliableLimiter Registry)} {attempt : Attempt}

/-- What is denied by a rule leaves a trace in the tally only. -/
theorem check_of_deny (notAllowed : ¬ gate.Lists .allow attempt.address)
    (denied : gate.Lists .deny attempt.address) :
    gate.check attempt = (outcomeFor attempt (some .rule),
      gate.recorded (outcomeFor attempt (some .rule))) :=
  (decides_of_deny rfl notAllowed denied).check_eq

theorem check_of_allow (allowed : gate.Lists .allow attempt.address) :
    gate.check attempt = (outcomeFor attempt none, gate.recorded (outcomeFor attempt none)) :=
  (decides_of_allow rfl allowed).check_eq

end

/-- A range that is listed alone, however it was spelled, settles every attempt from an address that
it names: under a deny verdict the attempt is refused by the rule, under an allow verdict it is
admitted, and nothing but the tally changes. -/
theorem checkText_of_names (gate : Gate MemoryStore (UnreliableLimiter Registry))
    (login password : String) {range text : String} {network named : Network} {spelled : Address}
    {rule : Rule} (listed : Network.parse range = .ok network)
    (literal : Network.ofText? (Text.trim range.toList) = some named)
    (read : Address.ofText? text.toList = some spelled)
    (names : named.Names spelled.canonical)
    (only : gate.store.rules = [rule]) (ranges : rule.network = network) :
    let attempt : Attempt := ⟨login, password, spelled.canonical⟩
    (rule.verdict = .deny →
      gate.checkText login password text = judged (outcomeFor attempt (some .rule),
        gate.recorded (outcomeFor attempt (some .rule)))) ∧
    (rule.verdict = .allow →
      gate.checkText login password text = judged (outcomeFor attempt none,
        gate.recorded (outcomeFor attempt none))) := by
  intro attempt
  have masked : network = named.masked := by
    obtain ⟨-, other, same, masked⟩ := Network.parse_eq_ok_iff.mp listed
    rw [masked, Option.some.inj (literal.symm.trans same)]
  have covers : rule.network.covers attempt.address = true := by
    rw [ranges, masked, Network.covers_masked]
    exact (Network.covers_iff_names named _).mpr names
  have lists (verdict : Verdict) : gate.Lists verdict attempt.address ↔ rule.verdict = verdict := by
    rw [lists_iff_of_singleton only]
    exact and_iff_left covers
  have judges := checkText_of_parse gate login password
    (Address.parse_eq_ok_iff.mpr ⟨spelled, read, rfl⟩)
  refine ⟨fun denies => ?_, fun allows => ?_⟩
  · have notAllowed : ¬ gate.Lists .allow attempt.address := by
      rw [lists, denies]
      exact nofun
    rw [judges, check_of_deny notAllowed ((lists .deny).mpr denies)]
  · rw [judges, check_of_allow ((lists .allow).mpr allows)]

/-- A range written with blanks and host bits refuses a mapped address that stands for one of its
own. -/
theorem checkText_of_names_respelled :
    let named : Network := ⟨⟨.v4, 0x0A01_0203, by decide⟩, 8, by decide⟩
    let spelled : Address := ⟨.v6, 0xFFFF_0A09_0909, by decide⟩
    let gate := listingOnly ⟨.deny, named.masked⟩
    let outcome : Outcome := .deny .rule "address 10.9.9.9 is on the deny list"
    Network.parse " 10.1.2.3/8 " = .ok named.masked ∧
      Network.ofText? (Text.trim " 10.1.2.3/8 ".toList) = some named ∧
      Address.ofText? "::ffff:10.9.9.9".toList = some spelled ∧
      named.Names spelled.canonical ∧
      gate.checkText "root" "guess" "::ffff:10.9.9.9" = judged (outcome, gate.recorded outcome) := by
  intro named spelled gate outcome
  have listed : Network.parse " 10.1.2.3/8 " = .ok named.masked := by decide +kernel
  have literal : Network.ofText? (Text.trim " 10.1.2.3/8 ".toList) = some named := by
    decide +kernel
  have read : Address.ofText? "::ffff:10.9.9.9".toList = some spelled := by decide +kernel
  have names : named.Names spelled.canonical :=
    (Network.covers_iff_names _ _).mp (by decide +kernel)
  have refused := (checkText_of_names gate "root" "guess" listed literal read names rfl rfl).1 rfl
  have same : outcomeFor ⟨"root", "guess", spelled.canonical⟩ (some .rule) = outcome := by
    decide +kernel
  rw [same] at refused
  exact ⟨listed, literal, read, names, refused⟩

/-- The range of all IPv6 addresses names a mapped address as it is written, but does not refuse
it. -/
theorem checkText_mapped_not_refused :
    let gate := listingOnly ⟨.deny, ⟨⟨.v6, 0, by decide⟩, 0, by decide⟩⟩
    ∃ network named spelled,
      Network.parse "::/0" = .ok network ∧
      Network.ofText? (Text.trim "::/0".toList) = some named ∧
      Address.ofText? "::ffff:10.0.0.1".toList = some spelled ∧
      named.Names spelled ∧
      gate.store.rules.map Rule.listing = [⟨.deny, network⟩] ∧
      (gate.checkText "root" "guess" "::ffff:10.0.0.1").1 = .ok .grant := by
  intro gate
  refine ⟨⟨⟨.v6, 0, by decide⟩, 0, by decide⟩, ⟨⟨.v6, 0, by decide⟩, 0, by decide⟩,
    ⟨.v6, 0xFFFF_0A00_0001, by decide⟩, by decide +kernel, by decide +kernel, by decide +kernel,
    (Network.covers_iff_names _ _).mp (by decide +kernel), rfl, by decide +kernel⟩

end LoginGate.Gate
