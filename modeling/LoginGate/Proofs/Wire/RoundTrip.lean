import LoginGate.Proofs.Json.Records
import LoginGate.Proofs.Network.RoundTrip
import LoginGate.Proofs.RuleId.RoundTrip
import LoginGate.Proofs.Timestamp.RoundTrip
import LoginGate.Service
import LoginGate.Wire.Response

/-! # Requests and responses over the wire

The JSON text of a request is decoded to that request, whatever texts its arguments are. The JSON
value of a response is decoded to that response, whatever it holds: each field is read back from its
own text.
-/

namespace LoginGate

open Json

namespace Request

/-- The members of a request name its operation and arguments, each once. -/
theorem ofJson_toJson (request : Request) : ofJson request.toJson.tree = .ok request := by
  cases request with
  | check login password address => rfl
  | reset parameter value => rfl
  | addRule verdict network => rfl
  | deleteRule verdict network => rfl
  | listRules verdict =>
    cases verdict with
    | none => rfl
    | some verdict => rfl

end Request

theorem Service.decode_toText (request : Request) : decode request.toJson.toText = .ok request :=
  (decodeText_toText Request.ofJson request.toJson).trans request.ofJson_toJson

open Json

/-! ## Fields of a response -/

theorem Verdict.ofJson_toJson (verdict : Verdict) : ofJson verdict.toJson.tree = .ok verdict :=
  choice_string verdict.ofName?_name

theorem DenyReason.ofJson_toJson (reason : DenyReason) : ofJson reason.toJson.tree = .ok reason :=
  choice_string reason.ofName?_name

theorem RuleId.ofJson_toJson (id : RuleId) : ofJson id.toJson.tree = .ok id := by
  have letters : (toString id).toList = id.toText := String.toList_ofList
  rw [toJson, tree, ofJson, text]
  simp only [bind, Except.bind, readable, letters, ofText_toText, Except.mapError]

theorem Network.ofJson_toJson (network : Network) : ofJson network.toJson.tree = .ok network := by
  have letters : (toString network).toList = network.toText := String.toList_ofList
  rw [toJson, tree, ofJson, anyText, text]
  simp only [bind, Except.bind, readable, letters, ofText?_toText]

theorem Timestamp.ofJson_toJson {time : Timestamp} (plain : time.IsPlain) :
    ofJson time.toJson.tree = .ok time := by
  have letters : (toString time).toList = time.toText := String.toList_ofList
  rw [toJson, tree, ofJson, text]
  simp only [bind, Except.bind, readable, letters, ofText_toText plain, Except.mapError]

/-! ## Rules and responses -/

theorem Rule.ofJson_toJson {rule : Rule} (plain : rule.updatedAt.IsPlain) :
    ofJson rule.toJson.tree = .ok rule := by
  have distinct : (fields.map (·.name)).Nodup := by decide
  have whole : rule.toJson = present [("id", some rule.id.toJson),
      ("verdict", some rule.verdict.toJson), ("network", some rule.network.toJson),
      ("updated_at", some rule.updatedAt.toJson)] := rfl
  rw [whole]
  refine record_present _ distinct ?_
  refine .must (fun _ => rfl) rule.id.ofJson_toJson ?_
  refine .must (fun _ => rfl) rule.verdict.ofJson_toJson ?_
  refine .must (fun _ => rfl) rule.network.ofJson_toJson ?_
  refine .must (fun _ => rfl) (Timestamp.ofJson_toJson plain) ?_
  exact .nil

namespace Response

/-- The code of a response takes sixteen bits, and its rules were stored at plain times. -/
structure IsSendable (response : Response) : Prop where
  code_lt : ∀ code ∈ response.code, code < UInt16.size
  rule_plain : ∀ rule ∈ response.rule, rule.updatedAt.IsPlain
  rules_plain : ∀ rules ∈ response.rules, ∀ rule ∈ rules, rule.updatedAt.IsPlain

theorem ofJson_toJson {response : Response} (sendable : response.IsSendable) :
    ofJson response.toJson.tree = .ok response := by
  have distinct : (fields.map (·.name)).Nodup := by decide
  have rule : ∀ rule ∈ response.rule, Rule.ofJson rule.toJson.tree = .ok rule :=
    fun rule member => Rule.ofJson_toJson (sendable.rule_plain rule member)
  have rules : ∀ rules ∈ response.rules,
      list Rule.ofJson (Json.array (rules.map Rule.toJson)).tree = .ok rules :=
    fun rules member => list_array fun rule listed =>
      Rule.ofJson_toJson (sendable.rules_plain rules member rule listed)
  have code : ∀ code ∈ response.code, small (Json.nat code).tree = .ok code :=
    fun code member => small_nat (sendable.code_lt code member)
  refine record_present _ distinct ?_
  -- One field after the other: where its value is put, that it may be left out, that the record has
  -- none there yet, that no value is written as null, and that the value is read back.
  refine .must (fun _ => rfl) rfl ?_
  refine .may (fun _ => rfl) rfl rfl (fun _ => nofun) (fun _ _ => rfl) ?_
  refine .may (fun _ => rfl) rfl rfl (fun _ => nofun) (fun reason _ => reason.ofJson_toJson) ?_
  refine .may (fun _ => rfl) rfl rfl (fun _ => nofun) (fun _ _ => rfl) ?_
  refine .may (fun _ => rfl) rfl rfl (fun _ => nofun) rule ?_
  refine .may (fun _ => rfl) rfl rfl (fun _ => nofun) rules ?_
  refine .may (fun _ => rfl) rfl rfl (fun _ => nofun) (fun _ _ => rfl) ?_
  refine .may (fun _ => rfl) rfl rfl (fun _ => nofun) code ?_
  refine .may (fun _ => rfl) rfl rfl (fun _ => nofun) (fun _ _ => rfl) ?_
  exact .nil

end Response
end LoginGate
