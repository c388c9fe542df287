import LoginGate.RuleStore

/-! # The rule book

Changes to the rules and the classification of addresses, as procedures over a rule store. Nothing
is locked between the calls of one procedure, so procedures may interleave.

A range is listed once, whatever the verdict, as far as a search before the addition can tell. An
address is classified by the rules that cover it, where one allow rule outweighs any deny rules.
-/

namespace LoginGate

/-- Why a change to the rules, or a look at them, failed. -/
inductive RuleFault where
  | input (error : InputError)
  /-- The range is listed already. -/
  | duplicate (network : Network)
  /-- There is no rule for the range with this verdict. -/
  | missing (verdict : Verdict) (network : Network)
  | store (fault : StoreFault)
  deriving DecidableEq, Repr

namespace RuleFault

def message : RuleFault → String
  | input error => error.message
  | duplicate network => s!"network {network} is already listed"
  | missing verdict network => s!"no {verdict.name} rule for network {network}"
  | store fault => fault.message

def category : RuleFault → Category
  | input error => error.category
  | duplicate _ => .conflict
  | missing _ _ => .notFound
  | store _ => .internal

def code? : RuleFault → Option Nat
  | input error => error.code?
  | duplicate _ => some Code.duplicateNetwork
  | missing _ _ => none
  | store _ => some Code.internal

end RuleFault

namespace RuleBook

open Procedure

/-- A procedure over a rule store that can fail. -/
@[reducible]
def Task (α : Type) : Type :=
  Procedure RuleCall.Answer (Except RuleFault α)

def unlistable (verdict : Verdict) : RuleFault :=
  .input (.unknownVerdict verdict.name)

def list (filter : Filter) : Task (List Rule) :=
  ask (.search filter) fun
    | .ok rules => done (.ok rules)
    | .error fault => done (.error (.store fault))

/-- Lists a range, unless it is listed already. -/
def add (listing : Listing) : Task Rule :=
  if listing.verdict.isListed then
    ask (.search (.exactly listing.network)) fun
      | .error fault => done (.error (.store fault))
      | .ok (_ :: _) => done (.error (.duplicate listing.network))
      | .ok [] =>
        ask (.add listing) fun
          | .error fault => done (.error (.store fault))
          | .ok rule => done (.ok rule)
  else done (.error (unlistable listing.verdict))

def find (listing : Listing) : Task Rule :=
  if listing.verdict.isListed then
    ask (.search (.ofListing listing)) fun
      | .error fault => done (.error (.store fault))
      | .ok (rule :: _) => done (.ok rule)
      | .ok [] => done (.error (.missing listing.verdict listing.network))
  else done (.error (unlistable listing.verdict))

/-- Removes the rules of a listing, if there is one. -/
def delete (listing : Listing) : Task Unit :=
  (find listing).bind fun
    | .error fault => done (.error fault)
    | .ok rule =>
      ask (.delete rule.listing) fun
        | .error fault => done (.error (.store fault))
        | .ok () => done (.ok ())

/-- The verdict so far after one more rule: allow outweighs everything, and deny no verdict. -/
def weighIn (before : Verdict) (rule : Rule) : Verdict :=
  match before, rule.verdict with
  | .allow, _ | _, .allow => .allow
  | _, .deny => .deny
  | before, .unlisted => before

/-- The verdict over several rules, weighed one after the other. -/
def weigh (rules : List Rule) : Verdict :=
  rules.foldl weighIn .unlisted

/-- What the lists say about an address. -/
def classify (address : Address) : Task Verdict :=
  (list (.containing address)).map fun found => found.map weigh

/-! ## Weighing -/

theorem weighIn_eq_allow_iff (before : Verdict) (rule : Rule) :
    weighIn before rule = .allow ↔ before = .allow ∨ rule.verdict = .allow := by
  unfold weighIn
  cases before <;> cases rule.verdict <;> decide

theorem weighIn_eq_deny_iff (before : Verdict) (rule : Rule) :
    weighIn before rule = .deny ↔
      (before = .deny ∨ rule.verdict = .deny) ∧ ¬ (before = .allow ∨ rule.verdict = .allow) := by
  unfold weighIn
  cases before <;> cases rule.verdict <;> decide

private theorem foldl_weighIn_eq_allow_iff (rules : List Rule) (before : Verdict) :
    rules.foldl weighIn before = .allow ↔
      before = .allow ∨ ∃ rule ∈ rules, rule.verdict = .allow := by
  induction rules generalizing before with
  | nil => simp
  | cons rule rest ih => simp [ih, weighIn_eq_allow_iff, or_assoc]

/-- A deny verdict so far, or a deny rule, counts unless something allows. -/
private theorem foldl_weighIn_eq_deny_iff (rules : List Rule) (before : Verdict) :
    rules.foldl weighIn before = .deny ↔
      (before = .deny ∨ ∃ rule ∈ rules, rule.verdict = .deny) ∧
        ¬ (before = .allow ∨ ∃ rule ∈ rules, rule.verdict = .allow) := by
  induction rules generalizing before with
  | nil => cases before <;> simp
  | cons rule rest ih =>
    simp only [List.foldl_cons, ih, weighIn_eq_allow_iff, weighIn_eq_deny_iff, List.mem_cons,
      exists_eq_or_imp]
    grind

/-- One allow rule outweighs everything. -/
theorem weigh_eq_allow_iff (rules : List Rule) :
    weigh rules = .allow ↔ ∃ rule ∈ rules, rule.verdict = .allow := by
  simp [weigh, foldl_weighIn_eq_allow_iff]

/-- A deny rule counts when there is no allow rule. -/
theorem weigh_eq_deny_iff (rules : List Rule) :
    weigh rules = .deny ↔
      (∃ rule ∈ rules, rule.verdict = .deny) ∧ ¬ ∃ rule ∈ rules, rule.verdict = .allow := by
  simp [weigh, foldl_weighIn_eq_deny_iff]

end RuleBook
end LoginGate
