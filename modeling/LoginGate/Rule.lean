import LoginGate.InputError
import LoginGate.Network
import LoginGate.RuleId
import LoginGate.Timestamp

/-! # Rules of the allow list and the deny list

An address is on the allow list, on the deny list or on neither. Rules carry one of the first two
verdicts; `unlisted` is what remains when no rule covers an address. Stored rules are selected by
filters.
-/

namespace LoginGate

/-- What the rule lists say about an address. -/
inductive Verdict where
  /-- No rule covers the address. -/
  | unlisted
  | allow
  | deny
  deriving DecidableEq, Repr

namespace Verdict

/-- The position in which rules of this verdict are listed. -/
def rank : Verdict → Nat
  | unlisted => 0
  | allow => 1
  | deny => 2

theorem rank_inj {first second : Verdict} : first.rank = second.rank ↔ first = second := by
  cases first <;> cases second <;> decide

def name : Verdict → String
  | unlisted => "none"
  | allow => "allow"
  | deny => "deny"

def all : List Verdict :=
  [unlisted, allow, deny]

def ofName? (name : String) : Option Verdict :=
  all.find? (·.name == name)

/-- A rule can carry this verdict. -/
def isListed : Verdict → Bool
  | unlisted => false
  | allow | deny => true

theorem isListed_iff {verdict : Verdict} :
    verdict.isListed = true ↔ verdict = .allow ∨ verdict = .deny := by
  cases verdict <;> decide

theorem isListed_eq_false_iff {verdict : Verdict} :
    verdict.isListed = false ↔ verdict = .unlisted := by
  cases verdict <;> decide

/-- Among rules, those that allow come before those that deny. -/
theorem rank_lt_iff {first second : Verdict} (listed : first.isListed = true) :
    first.rank < second.rank ↔ first = .allow ∧ second = .deny := by
  revert listed
  cases first <;> cases second <;> decide

/-- The verdict of a rule, as a caller names it. -/
def parse (text : String) : Except InputError Verdict :=
  match (ofName? text).filter isListed with
  | some verdict => .ok verdict
  | none => .error (.unknownVerdict text)

/-- Only verdicts that a rule can carry are read. -/
theorem isListed_of_parse {text : String} {verdict : Verdict} (read : parse text = .ok verdict) :
    verdict.isListed = true := by
  rw [parse] at read
  split at read
  · next found =>
    obtain rfl := Except.ok.inj read
    exact (Option.filter_eq_some_iff.mp found).2
  · cases read

/-- The verdict behind a list's name: lists go by color as well as by verdict. -/
def parseListName (text : String) : Except InputError Verdict :=
  if text = "white" then .ok allow
  else if text = "black" then .ok deny
  else parse text

theorem ofName?_name (verdict : Verdict) : ofName? verdict.name = some verdict := by
  cases verdict <;> decide

end Verdict

/-! ## Rules

A listing binds a range to a verdict. Once stored it becomes a rule, with an identity and the time
at which it was stored.
-/

/-- A range and the verdict it is to be listed under. -/
structure Listing where
  verdict : Verdict
  network : Network
  deriving DecidableEq, Repr

structure Rule where
  id : RuleId
  verdict : Verdict
  network : Network
  updatedAt : Timestamp
  deriving DecidableEq, Repr

/-- The listing a caller asks for; the verdict is read first. -/
def Listing.parse (verdict network : String) : Except InputError Listing := do
  let verdict ← Verdict.parse verdict
  let network ← Network.parse network
  .ok ⟨verdict, network⟩

theorem Listing.parse_eq_ok_iff {verdict network : String} {listing : Listing} :
    Listing.parse verdict network = .ok listing ↔
      Verdict.parse verdict = .ok listing.verdict ∧ Network.parse network = .ok listing.network := by
  rw [Listing.parse]
  cases Verdict.parse verdict with
  | error fault => exact ⟨nofun, nofun⟩
  | ok verdict =>
    cases Network.parse network with
    | error fault => exact ⟨nofun, nofun⟩
    | ok network =>
      obtain ⟨_, _⟩ := listing
      constructor
      · rintro ⟨⟩
        exact ⟨rfl, rfl⟩
      · rintro ⟨⟨⟩, ⟨⟩⟩
        rfl

namespace Rule

def listing (rule : Rule) : Listing :=
  ⟨rule.verdict, rule.network⟩

/-- Rules are listed by verdict, and by age within a verdict. -/
def atMost (first second : Rule) : Bool :=
  first.verdict.rank < second.verdict.rank ||
    (first.verdict == second.verdict && first.updatedAt.atMost second.updatedAt)

theorem atMost_iff {first second : Rule} :
    first.atMost second = true ↔ first.verdict.rank < second.verdict.rank ∨
      first.verdict = second.verdict ∧ first.updatedAt.atMost second.updatedAt = true := by
  simp [atMost]

theorem atMost_trans {first second third : Rule} (before : first.atMost second = true)
    (after : second.atMost third = true) : first.atMost third = true := by
  rw [atMost_iff] at *
  rcases before with before | ⟨same, before⟩
  · rcases after with after | ⟨same, -⟩
    · exact .inl (Nat.lt_trans before after)
    · exact .inl (same ▸ before)
  · rcases after with after | ⟨same', after⟩
    · exact .inl (same ▸ after)
    · exact .inr ⟨same.trans same', Timestamp.atMost_trans before after⟩

theorem atMost_total (first second : Rule) :
    first.atMost second = true ∨ second.atMost first = true := by
  rw [atMost_iff, atMost_iff]
  rcases Nat.lt_trichotomy first.verdict.rank second.verdict.rank with before | same | after
  · exact .inl (.inl before)
  · have verdicts := Verdict.rank_inj.mp same
    rcases Timestamp.atMost_total first.updatedAt second.updatedAt with before | after
    · exact .inl (.inr ⟨verdicts, before⟩)
    · exact .inr (.inr ⟨verdicts.symm, after⟩)
  · exact .inr (.inl after)

end Rule

/-! ## Filters

A filter selects stored rules. Every part that is set has to be met; a range is met either by a rule
for exactly that range or by any rule that covers the address it was named by.
-/

structure Filter where
  id : Option RuleId := none
  verdict : Option Verdict := none
  network : Option Network := none
  /-- The range itself is looked for, not the rules that cover its address. -/
  exact : Bool := false
  deriving DecidableEq, Repr

namespace Filter

def everything : Filter :=
  {}

/-- The rules for exactly this range. -/
def exactly (network : Network) : Filter :=
  { network := some network, exact := true }

/-- The rules that cover an address. -/
def containing (address : Address) : Filter :=
  { network := some (.single address) }

/-- The same filter, for rules of one verdict. -/
def withVerdict (filter : Filter) (verdict : Verdict) : Filter :=
  { filter with verdict := some verdict }

/-- The rule of a listing, whatever its identity. -/
def ofListing (listing : Listing) : Filter :=
  (exactly listing.network).withVerdict listing.verdict

/-- The range part of a filter is met. -/
def admits (filter : Filter) (network : Network) : Bool :=
  match filter.network with
  | none => true
  | some sought => if filter.exact then network == sought else network.covers sought.address

/-- Every part that is set is met. -/
def selects (filter : Filter) (rule : Rule) : Bool :=
  filter.id.all (· == rule.id) && filter.verdict.all (· == rule.verdict) &&
    filter.admits rule.network

/-- A filter for a verdict, or for none, looks at nothing else. -/
theorem selects_verdict_iff (sought : Option Verdict) (rule : Rule) :
    ({ verdict := sought } : Filter).selects rule = true ↔
      ∀ verdict ∈ sought, rule.verdict = verdict := by
  cases sought with
  | none => simp [selects, admits]
  | some verdict => simp [selects, admits, @eq_comm _ verdict]

theorem selects_containing (address : Address) (rule : Rule) :
    (containing address).selects rule = rule.network.covers address := rfl

theorem selects_exactly_iff (network : Network) (rule : Rule) :
    (exactly network).selects rule = true ↔ rule.network = network := by
  simp [selects, exactly, admits]

theorem selects_ofListing_iff (listing : Listing) (rule : Rule) :
    (ofListing listing).selects rule = true ↔ rule.listing = listing := by
  obtain ⟨verdict, network⟩ := listing
  simp only [selects, ofListing, exactly, withVerdict, admits, Rule.listing, Option.all_none,
    Option.all_some, Bool.true_and, if_true, Bool.and_eq_true, beq_iff_eq, Listing.mk.injEq]
  exact ⟨fun ⟨same, range⟩ => ⟨same.symm, range⟩, fun ⟨same, range⟩ => ⟨same.symm, range⟩⟩

end Filter
end LoginGate
