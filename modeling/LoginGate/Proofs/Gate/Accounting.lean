import LoginGate.Proofs.Gate.Questions

/-! # What the tally accounts for

A gate at work: judgements begin, take their turns with calls to the store and the limiter, and
return, while the rules, the buckets and the window change around them. The tally is what recording
the returned outcomes makes of an empty one (`Shift.Kept.run`), whatever the store and the limiter
answer, and every returned outcome says consistently whether and why the attempt is denied.
-/

namespace LoginGate

/-- An outcome that says consistently what became of an attempt. -/
structure Outcome.Coherent (outcome : Outcome) : Prop where
  /-- Exactly an admission goes without reason, code and message. -/
  admitted_iff : outcome.admitted = true ↔
    outcome.reason = none ∧ outcome.code = none ∧ outcome.message = none
  /-- A denial carries a reason, the code of this reason and a message. -/
  denied : outcome.admitted = false → ∃ reason message,
    outcome.reason = some reason ∧ outcome.code = some reason.code ∧ outcome.message = some message

theorem Outcome.Coherent.admitted_eq {outcome : Outcome} (coherent : outcome.Coherent) :
    outcome.admitted = decide (outcome.reason = none) := by
  cases admitted : outcome.admitted with
  | true => exact (decide_eq_true (coherent.admitted_iff.mp admitted).1).symm
  | false =>
    obtain ⟨reason, _, named, -⟩ := coherent.denied admitted
    rw [named]
    rfl

namespace Gate

open Procedure

theorem coherent_outcomeFor (attempt : Attempt) (reason : Option DenyReason) :
    (outcomeFor attempt reason).Coherent := by
  rcases reason with _ | _ | ⟨_ | _ | _⟩ | _
  · exact ⟨iff_of_true rfl ⟨rfl, rfl, rfl⟩, nofun⟩
  all_goals exact ⟨iff_of_false nofun nofun, fun _ => ⟨_, _, rfl, rfl, rfl⟩⟩

/-- Whatever a judgement is told, it ends with a coherent outcome. -/
theorem yields_judge (limits : AttemptLimits) (window : Window) (attempt : Attempt) :
    (judge limits window attempt).Yields Outcome.Coherent :=
  (keeps_judge (coherent_outcomeFor attempt none) (coherent_outcomeFor attempt _)
    (fun _ => coherent_outcomeFor attempt _)
    fun _ _ _ _ => coherent_outcomeFor attempt _).yields fun _ _ => trivial

/-! ## What is accounted for -/

/-- A gate, the judgements that it has begun and not returned, and all its replies to checks. -/
structure Shift (σ β : Type) where
  gate : Gate σ β
  underway : List (Procedure GateCall.Answer Outcome) := []
  replies : List (Except GateFault Outcome) := []

namespace Shift

variable {σ β : Type}

def verdicts (shift : Shift σ β) : List Outcome :=
  shift.replies.filterMap Except.toOption

/-- The tally is what the returned outcomes make of an empty one, and these are coherent, as are
those that the judgements under way are going to return. -/
structure Kept (shift : Shift σ β) : Prop where
  underway : ∀ judgement ∈ shift.underway, judgement.Yields Outcome.Coherent
  verdicts : ∀ outcome ∈ shift.verdicts, outcome.Coherent
  tally : shift.gate.tally = shift.verdicts.foldl Tally.record {}

/-- A gate that has just been built has nothing to account for. -/
theorem kept_of_build {store : σ} {limiter : β} {span : Duration} {limits : AttemptLimits}
    {gate : Gate σ β} (built : build store limiter span limits = .ok gate) :
    Kept { gate := gate } := by
  refine ⟨List.forall_mem_nil _, List.forall_mem_nil _, ?_⟩
  rw [build] at built
  split at built
  · rw [← Except.ok.inj built]
    rfl
  · cases built

namespace Kept

variable {shift : Shift σ β}

/-- A change that returns no outcome and leaves the tally alone is of no concern. -/
private theorem of_same (kept : shift.Kept) {other : Shift σ β}
    (underway : ∀ judgement ∈ other.underway, judgement.Yields Outcome.Coherent)
    (verdicts : other.verdicts = shift.verdicts) (tally : other.gate.tally = shift.gate.tally) :
    other.Kept :=
  ⟨underway, verdicts ▸ kept.verdicts, by rw [tally, verdicts, kept.tally]⟩

/-- Each counter is the number of the outcomes that move it, while these are fewer than 64 bits can
count. -/
theorem read_eq_countP (kept : shift.Kept) (room : shift.verdicts.length < UInt64.size)
    (counter : Tally.Counter) :
    shift.gate.tally.read counter = shift.verdicts.countP (Tally.Counter.of ·.reason = counter) := by
  have bounded : shift.verdicts.countP (Tally.Counter.of ·.reason = counter) < UInt64.size :=
    Nat.lt_of_le_of_lt List.countP_le_length room
  rw [kept.tally, Tally.read_foldl_record, Nat.mod_eq_of_lt bounded]

theorem total_eq_length (kept : shift.Kept) (room : shift.verdicts.length < UInt64.size) :
    shift.gate.tally.total = shift.verdicts.length := by
  have counted := kept.read_eq_countP room
  have all := Tally.sum_countP shift.verdicts
  rw [← counted .admitted, ← counted .deniedByRule, ← counted .deniedByLimit,
    ← counted .internalErrors] at all
  simp only [Tally.read] at all
  rw [Tally.total_eq, all]
  omega

end Kept
end Shift

/-! ## A gate at work -/

inductive Happening (σ β : Type) where
  /-- A judgement from beginning to end, with no other in between. -/
  | check (attempt : Attempt)
  /-- The same for an address given as text. -/
  | checkText (login password address : String)
  /-- A judgement begins, with the window that it is going to find. -/
  | start (attempt : Attempt) (window : Window)
  /-- A judgement under way makes its next call, or returns if none is left. -/
  | turn (index : Nat)
  /-- A judgement under way is abandoned. -/
  | drop (index : Nat)
  | reset (request : ResetRequest)
  /-- Any procedure over the rules, whatever comes out of it. -/
  | rules (task : RuleBook.Task Unit)
  | setWindow (window : Duration)
  /-- Anything that befalls the store and the limiter from elsewhere. -/
  | outside (store : σ → σ) (limiter : β → β)

namespace Shift

variable {σ β : Type} [RuleStore σ] [Limiter β]

/-- The turn of a judgement under way. -/
def turn (shift : Shift σ β) (index : Nat) : Shift σ β :=
  match shift.underway[index]? with
  | none => shift
  | some (.ask call next) =>
    let answered := answer call (shift.gate.store, shift.gate.limiter)
    { shift with
      gate := { shift.gate with store := answered.2.1, limiter := answered.2.2 }
      underway := shift.underway.set index (next answered.1) }
  | some (.done outcome) =>
    { gate := { shift.gate with tally := shift.gate.tally.record outcome }
      underway := shift.underway.eraseIdx index
      replies := shift.replies ++ [.ok outcome] }

def after (shift : Shift σ β) : Happening σ β → Shift σ β
  | .check attempt =>
    { shift with
      gate := (shift.gate.check attempt).2
      replies := shift.replies ++ [.ok (shift.gate.check attempt).1] }
  | .checkText login password address =>
    { shift with
      gate := (shift.gate.checkText login password address).2
      replies := shift.replies ++ [(shift.gate.checkText login password address).1] }
  | .start attempt window =>
    { shift with underway := shift.underway ++ [judge shift.gate.limits window attempt] }
  | .turn index => shift.turn index
  | .drop index => { shift with underway := shift.underway.eraseIdx index }
  | .reset request => { shift with gate := (shift.gate.reset request).2 }
  | .rules task => { shift with gate := (shift.gate.onRules task).2 }
  | .setWindow window => { shift with gate := (shift.gate.setWindow window).2 }
  | .outside store limiter =>
    { shift with
      gate := { shift.gate with
        store := store shift.gate.store
        limiter := limiter shift.gate.limiter } }

/-- The shift after some happenings. -/
def run (shift : Shift σ β) (happenings : List (Happening σ β)) : Shift σ β :=
  happenings.foldl after shift

/-! ## A check is a judgement that takes its turns in a row -/

/-- The turns of one judgement, with none of another in between, are a run of its procedure. -/
private theorem exists_turns_eq (gate : Gate σ β) (others : List (Procedure GateCall.Answer Outcome))
    (replies : List (Except GateFault Outcome)) (judgement : Procedure GateCall.Answer Outcome) :
    let ran := judgement.run answer (gate.store, gate.limiter)
    ∃ count, (Shift.mk gate (others ++ [judgement]) replies).run
        (List.replicate count (.turn others.length)) =
      ⟨{ gate with
          store := ran.2.1, limiter := ran.2.2, tally := gate.tally.record ran.1 },
        others, replies ++ [.ok ran.1]⟩ := by
  intro ran
  induction judgement generalizing gate with
  | done outcome =>
    refine ⟨1, ?_⟩
    simp [run, after, turn, ran, List.eraseIdx_append_of_length_le]
  | ask call next ih =>
    let answered := answer call (gate.store, gate.limiter)
    obtain ⟨count, turns⟩ := ih answered.1
      { gate with store := answered.2.1, limiter := answered.2.2 }
    have first : (Shift.mk gate (others ++ [ask call next]) replies).turn others.length =
        ⟨{ gate with store := answered.2.1, limiter := answered.2.2 },
          others ++ [next answered.1], replies⟩ := by
      simp [turn, answered, List.set_append_right]
    refine ⟨count + 1, ?_⟩
    rw [List.replicate_succ, run, List.foldl_cons, ← run, after, first]
    exact turns

/-- A check is a judgement that begins and then takes all its turns. -/
theorem exists_check_eq_turns (shift : Shift σ β) (attempt : Attempt) :
    ∃ count, shift.after (.check attempt) =
      (shift.after (.start attempt shift.gate.window)).run
        (List.replicate count (.turn shift.underway.length)) := by
  obtain ⟨count, turns⟩ := exists_turns_eq shift.gate shift.underway shift.replies
    (judge shift.gate.limits shift.gate.window attempt)
  exact ⟨count, turns.symm⟩

theorem after_checkText_of_ok (shift : Shift σ β) (login password : String) {text : String}
    {address : Address} (parsed : Address.parse text = .ok address) :
    shift.after (.checkText login password text) =
      shift.after (.check ⟨login, password, address⟩) := by
  simp only [after, checkText, parsed]

/-- A check of an address that cannot be read is refused, and nothing happens to the gate. -/
theorem after_checkText_of_error (shift : Shift σ β) (login password : String) {text : String}
    {fault : InputError} (failed : Address.parse text = .error fault) :
    shift.after (.checkText login password text) =
      { shift with replies := shift.replies ++ [.error (.input fault)] } := by
  simp only [after, checkText, failed]

/-! ## Whatever happens is accounted for -/

namespace Kept

variable {shift : Shift σ β}

theorem turn (kept : shift.Kept) (index : Nat) : (shift.turn index).Kept := by
  rw [Shift.turn]
  split
  · exact kept
  · next call next found =>
    refine kept.of_same (fun judgement member => ?_) rfl rfl
    rcases List.mem_or_eq_of_mem_set member with member | rfl
    · exact kept.underway judgement member
    · cases kept.underway _ (List.mem_of_getElem? found) with
      | ask rest => exact rest _
  · next outcome found =>
    have verdicts : Shift.verdicts
        { gate := { shift.gate with tally := shift.gate.tally.record outcome }
          underway := shift.underway.eraseIdx index
          replies := shift.replies ++ [.ok outcome] } = shift.verdicts ++ [outcome] :=
      List.filterMap_append
    refine ⟨fun judgement member => kept.underway _ (List.mem_of_mem_eraseIdx member), ?_, ?_⟩
    · rw [verdicts, List.forall_mem_append, List.forall_mem_singleton]
      cases kept.underway _ (List.mem_of_getElem? found) with
      | done sound => exact ⟨kept.verdicts, sound⟩
    · rw [verdicts, List.foldl_append, ← kept.tally]
      rfl

theorem start (kept : shift.Kept) (attempt : Attempt) (window : Window) :
    (shift.after (.start attempt window)).Kept := by
  refine kept.of_same ?_ rfl rfl
  rw [after, List.forall_mem_append, List.forall_mem_singleton]
  exact ⟨kept.underway, yields_judge _ window attempt⟩

theorem turns (kept : shift.Kept) (count index : Nat) :
    (shift.run (List.replicate count (.turn index))).Kept := by
  induction count generalizing shift with
  | zero => exact kept
  | succ count ih => exact ih (kept.turn index)

theorem check (kept : shift.Kept) (attempt : Attempt) : (shift.after (.check attempt)).Kept := by
  obtain ⟨count, same⟩ := shift.exists_check_eq_turns attempt
  rw [same]
  exact (kept.start attempt shift.gate.window).turns count _

theorem after (kept : shift.Kept) (happening : Happening σ β) : (shift.after happening).Kept := by
  cases happening with
  | check attempt => exact kept.check attempt
  | checkText login password address =>
    cases parsed : Address.parse address with
    | ok address =>
      rw [after_checkText_of_ok shift login password parsed]
      exact kept.check _
    | error fault =>
      rw [after_checkText_of_error shift login password parsed]
      refine kept.of_same kept.underway ?_ rfl
      exact List.filterMap_append.trans (List.append_nil _)
  | start attempt window => exact kept.start attempt window
  | turn index => exact kept.turn index
  | drop index =>
    exact kept.of_same (fun _ member => kept.underway _ (List.mem_of_mem_eraseIdx member)) rfl rfl
  | reset request =>
    refine kept.of_same kept.underway rfl ?_
    rw [Shift.after, reset]
    cases request.key <;> rfl
  | rules task => exact kept.of_same kept.underway rfl rfl
  | setWindow window =>
    refine kept.of_same kept.underway rfl ?_
    rw [Shift.after, setWindow]
    cases Window.ofSpan? window <;> rfl
  | outside store limiter => exact kept.of_same kept.underway rfl rfl

theorem run (kept : shift.Kept) (happenings : List (Happening σ β)) :
    (shift.run happenings).Kept := by
  induction happenings generalizing shift with
  | nil => exact kept
  | cons happening rest ih => exact ih (kept.after happening)

end Kept

/-- Whatever a gate goes through, with any store and any limiter: as long as it has returned fewer
outcomes than 64 bits can count, each counter is the number of the outcomes of its class and the
total is the number of all of them. Every outcome is coherent, and a check of an address that cannot
be read is counted nowhere. Of any four counters, the total is their sum unless it exceeds 64 bits,
and it is not below the first of them. -/
theorem tally_accounts {store : σ} {limiter : β} {span : Duration} {limits : AttemptLimits}
    {gate : Gate σ β} (built : build store limiter span limits = .ok gate)
    (happenings : List (Happening σ β)) :
    let shift := Shift.run { gate := gate } happenings
    let tally := shift.gate.tally
    (shift.verdicts.length < UInt64.size →
      tally.admitted = shift.verdicts.countP (·.admitted) ∧
      tally.deniedByRule = shift.verdicts.countP (·.reason = some .rule) ∧
      tally.deniedByLimit = shift.verdicts.countP
        (·.reason ∈ [some (.limit .login), some (.limit .password), some (.limit .address)]) ∧
      tally.internalErrors = shift.verdicts.countP (·.reason = some .internal) ∧
      tally.total = shift.verdicts.length) ∧
    (∀ outcome ∈ shift.verdicts, outcome.Coherent) ∧
    (∀ login password address, Address.ofText? address.toList = none →
      shift.after (.checkText login password address) =
        { shift with
          replies := shift.replies ++ [.error (.input (.malformedAddress address))] }) ∧
    ∀ admitted deniedByRule deniedByLimit internalErrors : UInt64,
      let counters : Tally :=
        ⟨admitted.toNat, deniedByRule.toNat, deniedByLimit.toNat, internalErrors.toNat⟩
      counters.total = min
        (admitted.toNat + deniedByRule.toNat + deniedByLimit.toNat + internalErrors.toNat)
        (UInt64.size - 1) ∧
      counters.admitted ≤ counters.total ∧
      counters.denied + counters.admitted = counters.total := by
  intro shift tally
  have kept : shift.Kept := (kept_of_build built).run happenings
  refine ⟨fun room => ?_, kept.verdicts, fun login password address unread => ?_, ?_⟩
  · have admitted := kept.read_eq_countP room .admitted
    have byRule := kept.read_eq_countP room .deniedByRule
    have byLimit := kept.read_eq_countP room .deniedByLimit
    have failed := kept.read_eq_countP room .internalErrors
    simp only [Tally.Counter.of_eq_iff] at admitted byRule byLimit failed
    refine ⟨admitted.trans (List.countP_congr fun outcome member => ?_), byRule, byLimit, failed,
      kept.total_eq_length room⟩
    rw [(kept.verdicts outcome member).admitted_eq]
  · refine after_checkText_of_error shift login password ?_
    rw [Address.parse, unread]
  · intro admitted deniedByRule deniedByLimit internalErrors counters
    have below : counters.admitted ≤ counters.total :=
      Tally.admitted_le_total admitted.toNat_lt
    exact ⟨Tally.total_eq counters, below, Nat.sub_add_cancel below⟩

/-- A gate returns one outcome of each class, one of them while the others come and go. It refuses
one address, and one judgement is abandoned. -/
theorem tally_accounts_of_four :
    let listed : Address := ⟨.v4, 1, by decide⟩
    let other : Address := ⟨.v4, 0, by decide⟩
    let rules := (MemoryStore.empty ⟨0, 0⟩ RuleId.ofNat).add ⟨.deny, .single listed⟩
    let store : UnreliableStore MemoryStore :=
      { inner := rules, plan := fun call => if call = 3 then some (.unavailable "gone") else none }
    let limits : AttemptLimits := { login := 1 }
    let window : Window := ⟨100, by decide, by decide⟩
    let gate : Gate (UnreliableStore MemoryStore) Registry :=
      { store, limiter := .empty, window, limits }
    let happenings : List (Happening (UnreliableStore MemoryStore) Registry) :=
      [.check ⟨"root", "guess", other⟩, .start ⟨"root", "again", other⟩ window,
        .checkText "ann" "secret" "0.0.0.1", .checkText "ann" "secret" "nowhere", .turn 0,
        .start ⟨"ann", "secret", other⟩ window, .drop 1, .turn 0, .turn 0,
        .outside id (·.advance 50), .check ⟨"bob", "secret", other⟩]
    let shift := Shift.run { gate := gate } happenings
    build store Registry.empty window.span limits = .ok gate ∧
      shift.verdicts.length = 4 ∧ shift.replies.length = 5 ∧
      shift.gate.tally = ⟨1, 1, 1, 1⟩ ∧ shift.gate.tally.total = 4 := by
  intro listed other rules store limits window gate happenings shift
  have built : build store Registry.empty window.span limits = .ok gate := rfl
  have four : shift.verdicts.length = 4 := by decide +kernel
  have room : shift.verdicts.length < UInt64.size := by
    rw [four]
    decide
  obtain ⟨admitted, byRule, byLimit, failed, total⟩ := (tally_accounts built happenings).1 room
  refine ⟨built, four, by decide +kernel, ?_, total.trans four⟩
  rw [Tally.mk.injEq, admitted, byRule, byLimit, failed]
  decide +kernel

end Shift
end Gate
end LoginGate
