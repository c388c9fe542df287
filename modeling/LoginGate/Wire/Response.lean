import LoginGate.Attempt
import LoginGate.Json.Decode
import LoginGate.Json.Value
import LoginGate.Wire.Rule

/-! # Responses

A response says whether a request succeeded, with what the operation yields or with what went wrong.
It is written as one object that leaves out what it does not have. An outcome is written in the same
way, aspects and reasons by their names.
-/

namespace LoginGate

open Json

namespace Aspect

def toJson (aspect : Aspect) : Json :=
  .string aspect.name

def ofJson : Tree → Except Fault Aspect :=
  choice ofName? (all.map name)

end Aspect

namespace DenyReason

def toJson (reason : DenyReason) : Json :=
  .string reason.name

def ofJson : Tree → Except Fault DenyReason :=
  choice ofName? (all.map name)

end DenyReason

namespace Outcome

def toJson (outcome : Outcome) : Json :=
  Json.present [("admitted", some (.bool outcome.admitted)),
    ("reason", outcome.reason.map DenyReason.toJson), ("error_code", outcome.code.map .nat),
    ("message", outcome.message.map .string)]

/-- The fields of an outcome; only the first has to be there. -/
def fields : List (RecordField Outcome) :=
  [{ name := "admitted"
     read := fun tree outcome => do return { outcome with admitted := ← truth tree } },
    { name := "reason", required := false
      read := fun tree outcome => do
        return { outcome with reason := ← optional DenyReason.ofJson tree } },
    { name := "error_code", required := false
      read := fun tree outcome => do return { outcome with code := ← optional small tree } },
    { name := "message", required := false
      read := fun tree outcome => do return { outcome with message := ← optional anyText tree } }]

def ofJson : Tree → Except Fault Outcome :=
  record "struct VerdictResult" fields { admitted := false }

end Outcome

namespace ResetRequest

def toJson (request : ResetRequest) : Json :=
  .object [("parameter", .string request.parameter), ("value", .string request.value)]

def fields : List (RecordField ResetRequest) :=
  [{ name := "parameter"
     read := fun tree request => do return { request with parameter := ← anyText tree } },
    { name := "value"
      read := fun tree request => do return { request with value := ← anyText tree } }]

def ofJson : Tree → Except Fault ResetRequest :=
  record "struct ResetRequest" fields ⟨"", ""⟩

end ResetRequest

/-! ## The answer to a request -/

open Json

/-- The answer to a request. -/
structure Response where
  ok : Bool
  admitted : Option Bool := none
  reason : Option DenyReason := none
  found : Option Bool := none
  rule : Option Rule := none
  rules : Option (List Rule) := none
  kind : Option String := none
  code : Option Nat := none
  message : Option String := none
  deriving DecidableEq, Repr

namespace Response

def done : Response :=
  { ok := true }

/-- The outcome of an attempt; a denial is a success too. -/
def ofOutcome (outcome : Outcome) : Response :=
  { ok := true, admitted := some outcome.admitted, reason := outcome.reason, code := outcome.code
    message := outcome.message }

/-- Whether there was something to reset. -/
def ofFound (found : Bool) : Response :=
  { ok := true, found := some found }

def ofRule (rule : Rule) : Response :=
  { ok := true, rule := some rule }

def ofRules (rules : List Rule) : Response :=
  { ok := true, rules := some rules }

def failure (category : Category) (code : Option Nat) (message : String) : Response :=
  { ok := false, kind := some category.wireName, code, message := some message }

/-- What a failure says, if the response is one. -/
def errorMessage? (response : Response) : Option String :=
  if response.ok then none
  else
    let kind := response.kind.getD "error"
    let message := response.message.getD ""
    some (match response.code with
      | some code => s!"{kind} ({code}): {message}"
      | none => s!"{kind}: {message}")

def toJson (response : Response) : Json :=
  Json.present [("ok", some (.bool response.ok)), ("admitted", response.admitted.map .bool),
    ("reason", response.reason.map DenyReason.toJson), ("found", response.found.map .bool),
    ("rule", response.rule.map Rule.toJson),
    ("rules", response.rules.map fun rules => .array (rules.map Rule.toJson)),
    ("kind", response.kind.map .string), ("code", response.code.map .nat),
    ("message", response.message.map .string)]

def fields : List (RecordField Response) :=
  [{ name := "ok", read := fun tree response => do return { response with ok := ← truth tree } },
    { name := "admitted", required := false
      read := fun tree response => do return { response with admitted := ← optional truth tree } },
    { name := "reason", required := false
      read := fun tree response => do
        return { response with reason := ← optional DenyReason.ofJson tree } },
    { name := "found", required := false
      read := fun tree response => do return { response with found := ← optional truth tree } },
    { name := "rule", required := false
      read := fun tree response => do
        return { response with rule := ← optional Rule.ofJson tree } },
    { name := "rules", required := false
      read := fun tree response => do
        return { response with rules := ← optional (list Rule.ofJson) tree } },
    { name := "kind", required := false
      read := fun tree response => do return { response with kind := ← optional anyText tree } },
    { name := "code", required := false
      read := fun tree response => do return { response with code := ← optional small tree } },
    { name := "message", required := false
      read := fun tree response => do
        return { response with message := ← optional anyText tree } }]

def ofJson : Tree → Except Fault Response :=
  record "struct Response" fields { ok := false }

end Response
end LoginGate
