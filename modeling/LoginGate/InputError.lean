import LoginGate.Text.Quoted

/-! # Kinds of failure

Every failure falls into one of four categories, and some carry a stable number besides. Both are
told to clients, the category under a name that does not set validation and conflict apart. The
failures that are a caller's own come first: text handed in that is refused (`InputError`).
-/

namespace LoginGate

/-- What kind of failure a request met. -/
inductive Category where
  /-- The input is malformed or not supported. -/
  | validation
  /-- The request collides with what is there. -/
  | conflict
  /-- What the request names does not exist. -/
  | notFound
  /-- The rule store or a limiter failed. -/
  | internal
  deriving DecidableEq, Repr

def Category.wireName : Category → String
  | .validation | .conflict => "invalid_argument"
  | .notFound => "not_found"
  | .internal => "internal"

/-! ## Stable numbers -/

namespace Code

/-- A rule for the same range exists. -/
def duplicateNetwork : Nat := 2001

/-- The rule store or a limiter failed. -/
def internal : Nat := 3001

/-- The address is on the deny list. -/
def deniedByRule : Nat := 3002

/-- The login is past its limit. -/
def loginLimit : Nat := 3003

/-- The password is past its limit. -/
def passwordLimit : Nat := 3004

/-- The address is past its limit. -/
def addressLimit : Nat := 3005

/-- Only login and address buckets can be reset. -/
def invalidResetParameter : Nat := 3006

end Code

/-! ## Rejected input

The ways in which text handed in by a caller can be refused. Each names the text, which the message
quotes.
-/

/-- Why a text is not an address range. -/
inductive RangeFault where
  /-- The prefix length is mandatory. -/
  | missingLength
  /-- The address or the prefix length cannot be read. -/
  | unreadable
  deriving DecidableEq, Repr

/-- Text from a caller that does not denote what it should. -/
inductive InputError where
  /-- A verdict is `allow` or `deny`. -/
  | unknownVerdict (text : String)
  | malformedNetwork (text : String) (fault : RangeFault)
  | malformedAddress (text : String)
  /-- A reset names `login` or `ip`. -/
  | unknownResetParameter (text : String)
  deriving DecidableEq, Repr

/-- The explanation of a range fault in a message about the given text. -/
def RangeFault.reason (text : String) : RangeFault → String
  | .missingLength => "missing prefix length"
  | .unreadable => s!"invalid address: {text}"

namespace InputError

def message : InputError → String
  | unknownVerdict text => s!"invalid rule type: {Text.quoted text}"
  | malformedNetwork text fault =>
    s!"malformed network {Text.quoted text}: {fault.reason text}"
  | malformedAddress text =>
    s!"malformed address {Text.quoted text}: invalid IP address syntax"
  | unknownResetParameter text =>
    s!"wrong reset parameter {Text.quoted text}: expected login or ip"

/-- Rejected input is always a validation failure. -/
def category (_ : InputError) : Category := .validation

def code? : InputError → Option Nat
  | unknownResetParameter _ => some Code.invalidResetParameter
  | _ => none

end InputError
end LoginGate
