import LoginGate.Address
import LoginGate.Text.Quoted

/-! # Attempts, outcomes and their tally

An attempt to log in is made with a login and a password from an address. Each of the three is an
aspect with a limit of its own, counted under a key that names the aspect and its value. The
outcome admits the attempt or denies it for a reason, and a tally is kept of outcomes.
-/

namespace LoginGate

/-- The aspects of an attempt that are limited, in the order in which they are checked. -/
inductive Aspect where
  | login
  | password
  | address
  deriving DecidableEq, Repr

namespace Aspect

def name : Aspect → String
  | login => "login"
  | password => "password"
  | address => "ip"

def all : List Aspect :=
  [login, password, address]

/-- The aspect of this name. -/
def ofName? (name : String) : Option Aspect :=
  all.find? (·.name == name)

/-- The key under which hits on a value are counted. -/
def key (aspect : Aspect) (value : String) : String :=
  aspect.name ++ "_" ++ value

theorem ofName?_name (aspect : Aspect) : ofName? aspect.name = some aspect := by
  cases aspect <;> decide

/-- Keys of different aspects, or of different values, are different. -/
theorem key_inj {aspect other : Aspect} {value otherValue : String} :
    aspect.key value = other.key otherValue ↔ aspect = other ∧ value = otherValue := by
  constructor
  · intro same
    have letters := congrArg String.toList same
    simp only [key, String.toList_append] at letters
    by_cases aspects : aspect = other
    · subst aspects
      exact ⟨rfl, String.toList_inj.mp (List.append_cancel_left letters)⟩
    · -- The names of different aspects differ in their first letters.
      cases aspect <;> cases other <;> simp [name] at letters aspects
  · rintro ⟨rfl, rfl⟩
    rfl

end Aspect

inductive DenyReason where
  /-- The address is on the deny list. -/
  | rule
  /-- The aspect is past its limit. -/
  | limit (aspect : Aspect)
  /-- The rule store or the limiter failed. -/
  | internal
  deriving DecidableEq, Repr

namespace DenyReason

def name : DenyReason → String
  | rule => "denied_by_rule"
  | limit .login => "denied_by_login_limit"
  | limit .password => "denied_by_password_limit"
  | limit .address => "denied_by_address_limit"
  | internal => "internal"

def code : DenyReason → Nat
  | rule => Code.deniedByRule
  | limit .login => Code.loginLimit
  | limit .password => Code.passwordLimit
  | limit .address => Code.addressLimit
  | internal => Code.internal

def all : List DenyReason :=
  [rule, limit .login, limit .password, limit .address, internal]

def ofName? (name : String) : Option DenyReason :=
  all.find? (·.name == name)

theorem ofName?_name (reason : DenyReason) : ofName? reason.name = some reason := by
  rcases reason with _ | ⟨⟨⟩⟩ | _ <;> decide

end DenyReason

/-- What a caller is told about an attempt. -/
structure Outcome where
  admitted : Bool
  reason : Option DenyReason := none
  code : Option Nat := none
  message : Option String := none
  deriving DecidableEq, Repr

namespace Outcome

def grant : Outcome :=
  { admitted := true }

def deny (reason : DenyReason) (message : String) : Outcome :=
  { admitted := false, reason := some reason, code := some reason.code, message := some message }

end Outcome

structure Attempt where
  login : String
  password : String
  address : Address
  deriving DecidableEq

namespace Attempt

def value (attempt : Attempt) : Aspect → String
  | .login => attempt.login
  | .password => attempt.password
  | .address => toString attempt.address

/-- The attempt as shown to a developer, without its password. -/
def describe (attempt : Attempt) : String :=
  let login := Text.quoted attempt.login
  s!"AttemptQuery \x7b login: {login}, password: \"<redacted>\", address: {attempt.address} \x7d"

end Attempt

/-- A wish to forget the hits on a login or an address, as a caller words it. -/
structure ResetRequest where
  parameter : String
  value : String
  deriving DecidableEq, Repr

namespace ResetRequest

/-- The aspect to reset; passwords cannot be reset. -/
def aspect (request : ResetRequest) : Except InputError Aspect :=
  match (Aspect.ofName? request.parameter).filter (· ≠ .password) with
  | some aspect => .ok aspect
  | none => .error (.unknownResetParameter request.parameter)

/-- The key to reset; an address is brought into canonical form. -/
def key (request : ResetRequest) : Except InputError String := do
  match ← request.aspect with
  | .address =>
    let address ← Address.parse request.value
    .ok (Aspect.address.key (toString address))
  | aspect => .ok (aspect.key request.value)

/-- No request is about passwords. -/
theorem ne_password_of_aspect {request : ResetRequest} {aspect : Aspect}
    (read : request.aspect = .ok aspect) : aspect ≠ .password := by
  rw [ResetRequest.aspect] at read
  split at read
  · next other found =>
    obtain rfl := Except.ok.inj read
    exact of_decide_eq_true (Option.filter_eq_some_iff.mp found).2
  · cases read

/-- The key to reset is the one of a login or an address. -/
theorem exists_key_of_key {request : ResetRequest} {key : String} (read : request.key = .ok key) :
    ∃ (aspect : Aspect) (value : String), aspect ≠ .password ∧ key = aspect.key value := by
  rw [ResetRequest.key] at read
  cases found : request.aspect with
  | error fault =>
    rw [found] at read
    cases read
  | ok aspect =>
    have allowed := ne_password_of_aspect found
    rw [found] at read
    cases aspect with
    | login => exact ⟨.login, _, allowed, (Except.ok.inj read).symm⟩
    | password => exact absurd rfl allowed
    | address =>
      cases parsed : Address.parse request.value with
      | error fault =>
        simp only [parsed, bind, Except.bind] at read
        cases read
      | ok address =>
        simp only [parsed, bind, Except.bind] at read
        exact ⟨.address, _, allowed, (Except.ok.inj read).symm⟩

end ResetRequest

/-! ## The tally of outcomes

Four counters say how often attempts were admitted, denied by a rule, denied by a limit and denied
because something failed. They wrap around in 64 bits; their total stands still at the largest
64-bit number instead.
-/

/-- Counters of outcomes. -/
structure Tally where
  admitted : Nat := 0
  deniedByRule : Nat := 0
  deniedByLimit : Nat := 0
  internalErrors : Nat := 0
  deriving DecidableEq, Repr

namespace Tally

/-- One more than the count, around in 64 bits. -/
def bump (count : Nat) : Nat :=
  (count + 1) % UInt64.size

/-- Counts an outcome by its reason. -/
def record (tally : Tally) (outcome : Outcome) : Tally :=
  match outcome.reason with
  | none => { tally with admitted := bump tally.admitted }
  | some .rule => { tally with deniedByRule := bump tally.deniedByRule }
  | some (.limit _) => { tally with deniedByLimit := bump tally.deniedByLimit }
  | some .internal => { tally with internalErrors := bump tally.internalErrors }

/-- The sum of two counts, at most the largest 64-bit number. -/
def sum (count more : Nat) : Nat :=
  min (count + more) (UInt64.size - 1)

/-- The sum of all counters, one added after the other. -/
def total (tally : Tally) : Nat :=
  sum (sum (sum tally.admitted tally.deniedByRule) tally.deniedByLimit) tally.internalErrors

def denied (tally : Tally) : Nat :=
  tally.total - tally.admitted

/-- The share of attempts that were denied, zero when there were none. -/
def denialRate (tally : Tally) : Float :=
  if tally.total = 0 then 0
  else (UInt64.ofNat tally.denied).toFloat / (UInt64.ofNat tally.total).toFloat

end Tally
end LoginGate
