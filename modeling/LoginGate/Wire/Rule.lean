import LoginGate.Json.Decode
import LoginGate.Json.Value
import LoginGate.Rule
import LoginGate.RuleId
import LoginGate.Timestamp.Text

/-! # Rules on the wire

A rule is an object of its identifier, verdict, range and time, the last three as their texts. When
it is read, identifiers, ranges and times may be spelled in any way that denotes them; host bits of
a range are kept.
-/

namespace LoginGate

open Json

namespace Verdict

def toJson (verdict : Verdict) : Json :=
  .string verdict.name

def ofJson : Tree → Except Fault Verdict :=
  choice ofName? (all.map name)

end Verdict

/-- Interprets a string by a reader that says why it fails. -/
def Json.readable {α : Type} (reader : String → Except String α) (text : String) :
    Except Fault α :=
  match reader text with
  | .ok value => .ok value
  | .error reason => .error (.mismatch (.unreadable reason))

namespace RuleId

def toJson (id : RuleId) : Json :=
  .string (toString id)

def ofJson (tree : Tree) : Except Json.Fault RuleId := do
  let text ← text "a formatted UUID string" tree
  readable (fun text => (ofText text.toList).mapError fun fault =>
    "UUID parsing failed: " ++ fault.message) text

end RuleId

namespace Network

def toJson (network : Network) : Json :=
  .string (toString network)

def ofJson (tree : Tree) : Except Fault Network := do
  let text ← anyText tree
  readable (fun text =>
    match ofText? text.toList with
    | some network => .ok network
    | none => .error (RangeFault.unreadable.reason text)) text

end Network

namespace Timestamp

def toJson (time : Timestamp) : Json :=
  .string (toString time)

def ofJson (tree : Tree) : Except Json.Fault Timestamp := do
  let text ← text "an RFC 3339 formatted date and time string" tree
  readable (fun text => (ofText text.toList).mapError Timestamp.Fault.message) text

end Timestamp

/-- The range of all addresses, in place of one that has not been read yet. -/
def Network.blank : Network :=
  ⟨⟨.v4, 0, by decide⟩, 0, Nat.zero_le _⟩

namespace Rule

def toJson (rule : Rule) : Json :=
  .object [("id", rule.id.toJson), ("verdict", rule.verdict.toJson),
    ("network", rule.network.toJson), ("updated_at", rule.updatedAt.toJson)]

/-- The fields of a rule. -/
def fields : List (RecordField Rule) :=
  [{ name := "id", read := fun tree rule => do return { rule with id := ← RuleId.ofJson tree } },
    { name := "verdict"
      read := fun tree rule => do return { rule with verdict := ← Verdict.ofJson tree } },
    { name := "network"
      read := fun tree rule => do return { rule with network := ← Network.ofJson tree } },
    { name := "updated_at"
      read := fun tree rule => do return { rule with updatedAt := ← Timestamp.ofJson tree } }]

/-- A rule of which nothing has been read yet. -/
def blank : Rule :=
  ⟨.ofNat 0, .unlisted, .blank, ⟨0, 0⟩⟩

def ofJson : Tree → Except Fault Rule :=
  record "struct NetworkRule" fields blank

end Rule

namespace Listing

def toJson (listing : Listing) : Json :=
  .object [("verdict", listing.verdict.toJson), ("network", listing.network.toJson)]

def fields : List (RecordField Listing) :=
  [{ name := "verdict"
     read := fun tree listing => do return { listing with verdict := ← Verdict.ofJson tree } },
    { name := "network"
      read := fun tree listing => do return { listing with network := ← Network.ofJson tree } }]

def ofJson : Tree → Except Fault Listing :=
  record "struct RuleInput" fields ⟨.unlisted, .blank⟩

end Listing
end LoginGate
