import LoginGate.Proofs.Gate.Decision

/-! # What a judgement asks and relies on

A judgement asks for rules and for hits on keys of its attempt, against the limits of the gate and
nothing else. If both are answered, whatever the answers are, it does not end as an internal error.
-/

namespace LoginGate

def GateCall.Failed : (call : GateCall) → call.Answer → Prop
  | .rules _, reply => ∃ fault, reply = .error fault
  | .hit _ _, reply => ∃ fault, reply = .error fault

namespace Gate

open Procedure

/-- A call that a judgement makes: if it is a hit, then on a key of some aspect, and against the limit
of that aspect over some window. -/
def Asks (limits : AttemptLimits) : GateCall → Prop
  | .rules _ => True
  | .hit key given => ∃ (aspect : Aspect) (value : String) (window : Window),
      key = aspect.key value ∧ given = limitsFor limits window aspect

/-- Limits of a gate can be used when they are positive, for windows always are. -/
theorem usable_limitsFor {limits : AttemptLimits} (positive : ∀ aspect, 0 < limits.of aspect)
    (window : Window) (aspect : Aspect) : (limitsFor limits window aspect).Usable :=
  ⟨window.nanos_pos, positive aspect⟩

theorem not_failed_hit {limits : AttemptLimits} (positive : ∀ aspect, 0 < limits.of aspect)
    {key : String} {given : Limits} (proper : Asks limits (.hit key given)) (registry : Registry) :
    ¬ GateCall.Failed (.hit key given) (registry.hit key given).1 := by
  obtain ⟨aspect, value, window, rfl, rfl⟩ := proper
  rintro ⟨fault, failed⟩
  rw [Registry.hit_of_usable registry _ (usable_limitsFor positive window aspect)] at failed
  cases failed

section

variable {limits : AttemptLimits} {window : Window} {attempt : Attempt}
  {relies : (call : GateCall) → call.Answer → Prop} {kind : Outcome → Prop}

/-- Measuring asks for hits on the given aspects, and denies the attempt for one of them if it does
so for a limit. -/
theorem keeps_measure {asks : GateCall → Prop} {aspects : List Aspect}
    (proper : ∀ aspect ∈ aspects,
      asks (.hit (attempt.key aspect) (limitsFor limits window aspect)))
    (granted : kind (outcomeFor attempt none))
    (exceeded : ∀ aspect ∈ aspects, kind (outcomeFor attempt (some (.limit aspect))))
    (failed : ∀ call reply, relies call reply → call.Failed reply →
      kind (outcomeFor attempt (some .internal))) :
    Keeps asks relies kind (measure limits window attempt aspects) := by
  induction aspects with
  | nil => exact .done granted
  | cons aspect rest ih =>
    obtain ⟨first, proper⟩ := List.forall_mem_cons.mp proper
    obtain ⟨here, exceeded⟩ := List.forall_mem_cons.mp exceeded
    rw [measure_cons]
    refine .ask first fun reply relied => ?_
    rcases reply with fault | ⟨⟩ | ⟨⟩
    · exact .done (failed _ _ relied ⟨fault, rfl⟩)
    · exact ih proper exceeded
    · exact .done here

/-- A judgement keeps to the limits of the gate. It ends as an internal error only after a call that
failed, if such a call is to be reckoned with. -/
theorem keeps_judge (granted : kind (outcomeFor attempt none))
    (denied : kind (outcomeFor attempt (some .rule)))
    (exceeded : ∀ aspect, kind (outcomeFor attempt (some (.limit aspect))))
    (failed : ∀ call reply, relies call reply → call.Failed reply →
      kind (outcomeFor attempt (some .internal))) :
    Keeps (Asks limits) relies kind (judge limits window attempt) := by
  rw [judge_eq]
  refine .ask trivial fun reply relied => ?_
  rcases reply with fault | found
  · exact .done (failed _ _ relied ⟨fault, rfl⟩)
  · rw [proceed]
    cases RuleBook.weigh found with
    | allow => exact .done granted
    | deny => exact .done denied
    | unlisted =>
      exact keeps_measure (fun aspect _ => ⟨aspect, _, window, rfl, rfl⟩) granted
        (fun aspect _ => exceeded aspect) failed

end

end Gate
end LoginGate
