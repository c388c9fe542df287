import LoginGate.Proofs.Gate.Bound
import LoginGate.Proofs.Gate.Lists
import LoginGate.Proofs.Gate.Questions
import LoginGate.Proofs.Procedure.Crew

/-! # Judgements at the same time

Several attempts are judged at the same time, and their calls reach the store and the registry in
any order. Which attempt meets which count depends on the order. How many pass does not: every hit
on a key is counted once, so the hits within the limit are as many as the count has left room for,
and each judgement hits the key of its login at most once.
-/

namespace LoginGate.Gate

open Procedure

variable {σ ι : Type} [RuleStore σ]

/-- What the store and the registry answer to a call of a judgement, some time after the last one. -/
def answerAfter (nanos : Nat) (call : GateCall) (state : σ × Registry) :
    call.Answer × (σ × Registry) :=
  answer call (state.1, state.2.advance nanos)

/-- Whenever a call is made, the clock is before the next boundary of every bucket. -/
def Quiet : σ × Registry → List (Turn GateCall.Answer ι Nat) → Prop
  | _, [] => True
  | state, turn :: rest =>
    state.2.Still turn.moment ∧ Quiet (answerAfter turn.moment turn.call state).2 rest

instance decidableQuiet : (state : σ × Registry) → (turns : List (Turn GateCall.Answer ι Nat)) →
    Decidable (Quiet state turns)
  | _, [] => inferInstanceAs (Decidable True)
  | state, turn :: rest =>
    have := decidableQuiet (answerAfter turn.moment turn.call state).2 rest
    inferInstanceAs (Decidable (_ ∧ _))

/-! ## What is asked and answered -/

def hits (key : String) : Exchange GateCall.Answer → Bool
  | ⟨.hit other _, _⟩ => other == key
  | _ => false

def isWithin : Exchange GateCall.Answer → Bool
  | ⟨.hit _ _, .ok false⟩ => true
  | _ => false

theorem isWithin_ok (key : String) (given : Limits) (exceeded : Bool) :
    isWithin ⟨.hit key given, .ok exceeded⟩ = !exceeded := by
  cases exceeded <;> rfl

/-- A hit on a key that is within the limit. -/
def passes (key : String) (exchange : Exchange GateCall.Answer) : Bool :=
  hits key exchange && isWithin exchange

/-- A look at the rules that says nothing of the address, and leaves the attempt to the limits. -/
def findsUnlisted : Exchange GateCall.Answer → Bool
  | ⟨.rules (.search _), .ok found⟩ => RuleBook.weigh found == .unlisted
  | _ => false

/-- A hit that is not answered. -/
def Unanswered : (call : GateCall) → call.Answer → Prop
  | .hit key given, reply => GateCall.Failed (.hit key given) reply
  | .rules _, _ => False

section Serves

variable {limits : AttemptLimits} {state : σ × Registry} {nanos : Nat} {call : GateCall}

theorem hit_answerAfter (nanos : Nat) (key : String) (given : Limits) (state : σ × Registry) :
    (answerAfter nanos (.hit key given) state).1 =
      ((state.2.advance nanos).hit key given).1 := rfl

theorem not_unanswered (positive : ∀ aspect, 0 < limits.of aspect) (proper : Asks limits call) :
    ¬ Unanswered call (answerAfter nanos call state).1 := by
  cases call with
  | rules call => exact id
  | hit key given => exact not_failed_hit positive proper (state.2.advance nanos)

/-- A hit on a key raises its count, and nothing else changes it. -/
theorem count_answerAfter (positive : ∀ aspect, 0 < limits.of aspect) (proper : Asks limits call)
    (still : state.2.Still nanos) (key : String) :
    (answerAfter nanos call state).2.2.count key =
      if hits key ⟨call, (answerAfter nanos call state).1⟩ then
        (state.2.count key + 1) % wordSize
      else state.2.count key := by
  cases call with
  | rules call => exact Registry.count_advance_of_still still key
  | hit other given =>
    obtain ⟨aspect, value, window, rfl, rfl⟩ := proper
    have counted := Registry.count_hit (state.2.advance nanos) (aspect.key value) key
      (usable_limitsFor positive window aspect)
    rw [Registry.count_advance_of_still still] at counted
    simp only [hits, beq_iff_eq]
    exact counted

/-- A key of an aspect stays held to the limit of that aspect. -/
theorem heldTo_answerAfter (proper : Asks limits call) {aspect : Aspect} {value : String}
    (held : state.2.HeldTo (aspect.key value) (limits.of aspect)) :
    (answerAfter nanos call state).2.2.HeldTo (aspect.key value) (limits.of aspect) := by
  cases call with
  | rules call => exact held.advance nanos
  | hit other given =>
    obtain ⟨hit, found, window, rfl, rfl⟩ := proper
    exact heldTo_hit (held.advance nanos) hit found window

/-- A hit on a key is within the limit when the count finds room for it. -/
theorem passes_answerAfter (positive : ∀ aspect, 0 < limits.of aspect)
    (proper : Asks limits call) (still : state.2.Still nanos) {aspect : Aspect} {value : String}
    (held : state.2.HeldTo (aspect.key value) (limits.of aspect))
    (room : state.2.count (aspect.key value) + 1 < wordSize) :
    passes (aspect.key value) ⟨call, (answerAfter nanos call state).1⟩ =
      (hits (aspect.key value) ⟨call, (answerAfter nanos call state).1⟩ &&
        decide (state.2.count (aspect.key value) < limits.of aspect)) := by
  cases call with
  | rules call => rfl
  | hit other given =>
    obtain ⟨hit, found, window, rfl, rfl⟩ := proper
    by_cases same : hit.key found = aspect.key value
    · obtain ⟨rfl, rfl⟩ := Aspect.key_inj.mp same
      have usable := usable_limitsFor positive window hit
      have answered := Registry.hit_of_heldTo (held.advance nanos) usable
      rw [Registry.count_advance_of_still still, clamped, Nat.min_eq_left (by omega)] at answered
      rw [passes, hit_answerAfter, answered]
      refine congrArg (_ && ·) ((isWithin_ok _ _ _).trans ?_)
      rw [← decide_not]
      exact decide_eq_decide.mpr (Nat.not_lt.trans Nat.succ_le_iff)
    · have other : hits (aspect.key value) ⟨.hit (hit.key found) (limitsFor limits window hit),
          (answerAfter nanos (.hit (hit.key found) (limitsFor limits window hit)) state).1⟩ =
            false := beq_eq_false_iff_ne.mpr same
      rw [passes, other, Bool.false_and, Bool.false_and]

variable {start final : σ × Registry} {turns : List (Turn GateCall.Answer ι Nat)}

theorem not_unanswered_of_serves (positive : ∀ aspect, 0 < limits.of aspect)
    (serves : Serves answerAfter start turns final) (asks : ∀ turn ∈ turns, Asks limits turn.call) :
    ∀ turn ∈ turns, ¬ Unanswered turn.call turn.reply := by
  induction serves with
  | refl => exact List.forall_mem_nil _
  | turn later ih =>
    obtain ⟨proper, asks⟩ := List.forall_mem_cons.mp asks
    exact List.forall_mem_cons.mpr ⟨not_unanswered positive proper, ih asks⟩

theorem count_of_serves (positive : ∀ aspect, 0 < limits.of aspect)
    (serves : Serves answerAfter start turns final) (asks : ∀ turn ∈ turns, Asks limits turn.call)
    (quiet : Quiet start turns) {key : String}
    (room : start.2.count key + turns.countP (fun turn => hits key turn.exchange) < wordSize) :
    final.2.count key =
      start.2.count key + turns.countP fun turn => hits key turn.exchange := by
  induction serves with
  | refl => rfl
  | @turn state final rest who nanos call later ih =>
    obtain ⟨proper, asks⟩ : Asks limits call ∧ ∀ turn ∈ rest, Asks limits turn.call :=
      List.forall_mem_cons.mp asks
    obtain ⟨still, quiet⟩ : state.2.Still nanos ∧ Quiet (answerAfter nanos call state).2 rest :=
      quiet
    have counted := count_answerAfter positive proper still key
    rw [List.countP_cons, Turn.exchange_mk] at room ⊢
    split at room
    · next own =>
      rw [if_pos own, Nat.mod_eq_of_lt (by omega)] at counted
      rw [ih asks quiet (by omega), if_pos own, counted]
      omega
    · next other =>
      rw [if_neg other] at counted
      rw [ih asks quiet (by omega), if_neg other, counted, Nat.add_zero]

/-- The hits on a key that are within the limit are as many as the count has left room for. -/
theorem countP_passes_of_serves (positive : ∀ aspect, 0 < limits.of aspect)
    (serves : Serves answerAfter start turns final) (asks : ∀ turn ∈ turns, Asks limits turn.call)
    (quiet : Quiet start turns) {aspect : Aspect} {value : String}
    (held : start.2.HeldTo (aspect.key value) (limits.of aspect))
    (room : start.2.count (aspect.key value) +
      turns.countP (fun turn => hits (aspect.key value) turn.exchange) < wordSize) :
    turns.countP (fun turn => passes (aspect.key value) turn.exchange) =
      min (turns.countP fun turn => hits (aspect.key value) turn.exchange)
        (limits.of aspect - start.2.count (aspect.key value)) := by
  induction serves with
  | refl => exact (Nat.zero_min _).symm
  | @turn state final rest who nanos call later ih =>
    obtain ⟨proper, asks⟩ : Asks limits call ∧ ∀ turn ∈ rest, Asks limits turn.call :=
      List.forall_mem_cons.mp asks
    obtain ⟨still, quiet⟩ : state.2.Still nanos ∧ Quiet (answerAfter nanos call state).2 rest :=
      quiet
    have counted := count_answerAfter positive proper still (aspect.key value)
    rw [List.countP_cons, Turn.exchange_mk] at room
    rw [List.countP_cons, List.countP_cons, Turn.exchange_mk]
    have later := ih asks quiet (heldTo_answerAfter proper held)
    split at room
    · next own =>
      have passed := passes_answerAfter positive proper still held (by omega)
      rw [if_pos own, Nat.mod_eq_of_lt (by omega)] at counted
      rw [own, Bool.true_and] at passed
      rw [later (by omega), counted, passed, if_pos own]
      simp only [decide_eq_true_eq]
      split <;> omega
    · next other =>
      rw [if_neg other] at counted
      have missed : passes (aspect.key value) ⟨call, (answerAfter nanos call state).1⟩ = false := by
        rw [passes, Bool.eq_false_iff.mpr other, Bool.false_and]
      rw [later (by omega), counted, missed, if_neg other]
      rfl

end Serves

/-! ## One judgement -/

section Path

variable {limits : AttemptLimits} {window : Window} {attempt : Attempt} {outcome : Outcome}
  {path : List (Exchange GateCall.Answer)}

/-- After the login, a judgement hits no key of a login and denies for no login. -/
private theorem of_leads_measure
    (leads : Leads (measure limits window attempt [.password, .address]) path (done outcome)) :
    outcome.reason ≠ some (.limit .login) ∧
      ∀ exchange ∈ path, findsUnlisted exchange = false ∧
        ∀ login, hits (Aspect.login.key login) exchange = false := by
  have keeps : Keeps
      (fun call => ∃ aspect ≠ .login, ∃ given, call = .hit (attempt.key aspect) given)
      (fun _ _ => True) (fun outcome => outcome.reason ≠ some (.limit .login))
      (measure limits window attempt [.password, .address]) := by
    refine keeps_measure (fun aspect member => ⟨aspect, ?_, _, rfl⟩) nofun (fun aspect member => ?_)
      fun _ _ _ _ => nofun
    · rintro rfl
      revert member
      decide
    · rw [reason_outcomeFor]
      rintro ⟨⟩
      revert member
      decide
  obtain ⟨asked, kept⟩ := keeps.of_leads leads fun _ _ => trivial
  cases kept with
  | done sound =>
    refine ⟨sound, ?_⟩
    rintro ⟨call, reply⟩ member
    obtain ⟨aspect, other, given, rfl⟩ := asked _ member
    refine ⟨rfl, fun login => beq_eq_false_iff_ne.mpr fun same => ?_⟩
    exact other (Aspect.key_inj.mp same).1

/-- The first hit of a judgement, if it is answered, is on the key of the login, and it alone
decides whether the judgement denies for the login. -/
private theorem of_leads_all
    (leads : Leads (measure limits window attempt Aspect.all) path (done outcome))
    (answered : ∀ exchange ∈ path, ¬ Unanswered exchange.1 exchange.2) :
    ∃ exceeded rest,
      path = ⟨.hit (attempt.key .login) (limitsFor limits window .login), .ok exceeded⟩ :: rest ∧
      (∀ exchange ∈ rest, findsUnlisted exchange = false ∧
        ∀ login, hits (Aspect.login.key login) exchange = false) ∧
      (exceeded = true ↔ outcome = outcomeFor attempt (some (.limit .login))) := by
  rw [Aspect.all, measure_cons] at leads
  rcases leads_ask_iff.mp leads with ⟨-, ⟨⟩⟩ | ⟨fault | ⟨⟩ | ⟨⟩, rest, rfl, hit⟩
  · exact absurd ⟨fault, rfl⟩ (answered _ List.mem_cons_self)
  · obtain ⟨admitted, later⟩ := of_leads_measure hit
    refine ⟨false, rest, rfl, later, iff_of_false Bool.false_ne_true fun denied => admitted ?_⟩
    rw [denied, reason_outcomeFor]
  · obtain ⟨rfl, ⟨⟩⟩ := leads_done_iff.mp hit
    exact ⟨true, [], rfl, List.forall_mem_nil _, iff_of_true rfl rfl⟩

/-- A judgement is settled by the lists or its lookup, and then hits nothing, or it is left to the
limits. -/
theorem leads_judge_cases (leads : Leads (judge limits window attempt) path (done outcome))
    (answered : ∀ exchange ∈ path, ¬ Unanswered exchange.1 exchange.2) :
    (∀ exchange ∈ path, findsUnlisted exchange = false ∧
      ∀ login, hits (Aspect.login.key login) exchange = false) ∨
    ∃ look exceeded rest,
      path = look :: ⟨.hit (attempt.key .login) (limitsFor limits window .login), .ok exceeded⟩ ::
        rest ∧
      findsUnlisted look = true ∧ (∀ key, hits key look = false) ∧
      (∀ exchange ∈ rest, findsUnlisted exchange = false ∧
        ∀ login, hits (Aspect.login.key login) exchange = false) ∧
      (exceeded = true ↔ outcome = outcomeFor attempt (some (.limit .login))) := by
  rw [judge_eq] at leads
  rcases leads_ask_iff.mp leads with ⟨-, ⟨⟩⟩ | ⟨fault | found, rest, rfl, looked⟩
  · obtain ⟨rfl, -⟩ := leads_done_iff.mp looked
    exact .inl (List.forall_mem_singleton.mpr ⟨rfl, fun _ => rfl⟩)
  · have leavesIf {verdict : Verdict} (weighed : RuleBook.weigh found = verdict) :
        findsUnlisted ⟨.rules (.search (.containing attempt.address)), .ok found⟩ =
          (verdict == .unlisted) := by
      rw [findsUnlisted, weighed]
    rw [proceed] at looked
    cases weighed : RuleBook.weigh found with
    | allow =>
      rw [weighed] at looked
      obtain ⟨rfl, -⟩ := leads_done_iff.mp looked
      exact .inl (List.forall_mem_singleton.mpr ⟨leavesIf weighed, fun _ => rfl⟩)
    | deny =>
      rw [weighed] at looked
      obtain ⟨rfl, -⟩ := leads_done_iff.mp looked
      exact .inl (List.forall_mem_singleton.mpr ⟨leavesIf weighed, fun _ => rfl⟩)
    | unlisted =>
      rw [weighed] at looked
      obtain ⟨exceeded, rest, rfl, later, denied⟩ :=
        of_leads_all looked (List.forall_mem_cons.mp answered).2
      exact .inr ⟨_, exceeded, rest, rfl, leavesIf weighed, fun _ => rfl, later, denied⟩

private theorem countP_of_none {key : String}
    (none : ∀ exchange ∈ path, hits key exchange = false) :
    path.countP (hits key) = 0 ∧ path.countP (passes key) = 0 := by
  rw [List.countP_eq_zero, List.countP_eq_zero]
  refine ⟨fun exchange member hit => ?_, fun exchange member passed => ?_⟩
  · exact Bool.false_ne_true ((none exchange member).symm.trans hit)
  · rw [passes, none exchange member] at passed
    cases passed

/-- A judgement that is left to the limits hits the key of its login once, and is denied by the limit
on logins unless that hit is within it. Other judgements hit no key of a login. -/
theorem of_leads_judge (leads : Leads (judge limits window attempt) path (done outcome))
    (answered : ∀ exchange ∈ path, ¬ Unanswered exchange.1 exchange.2) (login : String) :
    let key := Aspect.login.key login
    let counted := attempt.login = login ∧ path.any findsUnlisted = true
    let passed := path.any (passes key) = true
    path.countP (hits key) = (if counted then 1 else 0) ∧
      path.countP (passes key) = (if counted ∧ passed then 1 else 0) ∧
      (counted → (¬ passed ↔ outcome = outcomeFor attempt (some (.limit .login)))) := by
  intro key counted passed
  rcases leads_judge_cases leads answered with
    none | ⟨look, exceeded, rest, rfl, unlisted, noKey, later, denied⟩
  · have uncounted : ¬ counted := fun both => by
      obtain ⟨exchange, member, unlisted⟩ := List.any_eq_true.mp both.2
      exact Bool.false_ne_true ((none exchange member).1.symm.trans unlisted)
    obtain ⟨noHit, noPass⟩ := countP_of_none fun exchange member => (none exchange member).2 login
    rw [if_neg uncounted, if_neg fun both => uncounted both.1]
    exact ⟨noHit, noPass, fun both => absurd both uncounted⟩
  · obtain ⟨noHit, noPass⟩ : rest.countP (hits key) = 0 ∧ rest.countP (passes key) = 0 :=
      countP_of_none fun exchange member => (later exchange member).2 login
    have own : hits key ⟨.hit (attempt.key .login) (limitsFor limits window .login),
        .ok exceeded⟩ = decide (attempt.login = login) := by
      rw [hits, beq_eq_decide]
      exact decide_eq_decide.mpr (Aspect.key_inj.trans (and_iff_right rfl))
    have counted_iff : counted ↔ attempt.login = login :=
      and_iff_left (List.any_eq_true.mpr ⟨look, List.mem_cons_self, unlisted⟩)
    have passed_iff : passed ↔ attempt.login = login ∧ exceeded = false := by
      have noneLater : rest.any (passes key) = false :=
        List.any_eq_false.mpr (List.countP_eq_zero.mp noPass)
      simp only [passed, List.any_cons, passes, noKey, own, isWithin_ok, noneLater,
        Bool.false_and, Bool.false_or, Bool.or_false, Bool.and_eq_true, decide_eq_true_eq,
        Bool.not_eq_true']
    refine ⟨?_, ?_, fun both => ?_⟩
    · simp only [List.countP_cons, noKey, own, noHit, decide_eq_true_eq, counted_iff,
        Bool.false_eq_true, if_false, Nat.add_zero, Nat.zero_add]
    · simp only [List.countP_cons, passes, noKey, own, isWithin_ok, noPass, counted_iff, passed_iff,
        Bool.false_and, Bool.and_eq_true, decide_eq_true_eq, Bool.not_eq_true', ← and_assoc,
        and_self, Bool.false_eq_true, if_false, Nat.add_zero, Nat.zero_add]
    · rw [passed_iff, and_iff_right (counted_iff.mp both), Bool.not_eq_false]
      exact denied

end Path

/-! ## Judgements at the same time -/

/-- Attempts that are judged at the same time, each with the window that it finds. -/
def judges (limits : AttemptLimits) (windows : ι → Window) (attempts : ι → Attempt)
    (state : σ × Registry) : Crew GateCall.Answer ι Outcome (σ × Registry) :=
  ⟨fun who => judge limits (windows who) (attempts who), state⟩

/-- Whatever judgements are told, they ask for hits against the limits of their gate only. -/
theorem asks_of_judges [DecidableEq ι] (limits : AttemptLimits) (windows : ι → Window)
    (attempts : ι → Attempt) (state : σ × Registry) (slots : List (Nat × ι)) :
    ∀ turn ∈ (judges limits windows attempts state).turns answerAfter slots,
      Asks limits turn.call := by
  intro turn member
  have keeps : Keeps (Asks limits) (fun _ _ => True) (fun _ => True)
      (judge limits (windows turn.who) (attempts turn.who)) :=
    keeps_judge trivial trivial (fun _ => trivial) fun _ _ _ _ => trivial
  have leads := (judges limits windows attempts state).leads_run answerAfter slots turn.who
  exact (keeps.of_leads leads fun _ _ => trivial).1 _
    (mem_heard_iff.mpr ⟨turn, member, rfl, rfl⟩)

section Judges

variable [Fintype ι] [DecidableEq ι]

/-- However the calls of some judgements are ordered, as long as no boundary falls between them: of
those that the lists leave to the limits, with one login, exactly as many get past the limit on
logins as the count of the login had counted room for, and the others are denied for their login. In
the end every count has grown by the hits on its key. -/
theorem judges_counted (store : σ) (plan : Nat → Option LimitsFault) (window : Window)
    (limits : AttemptLimits) (positive : ∀ aspect, 0 < limits.of aspect) (events : List Event)
    (windows : ι → Window) (attempts : ι → Attempt) (slots : List (Nat × ι)) :
    let gate := (fresh store plan window limits).run events
    let crew := judges limits windows attempts (gate.store, gate.registry)
    let turns := crew.turns answerAfter slots
    let after := crew.run answerAfter slots
    Quiet crew.state turns →
    ∀ outcomes : ι → Outcome, (∀ who, (after.tasks who).result? = some (outcomes who)) →
      (∀ login,
        let key := Aspect.login.key login
        let counted := Finset.univ.filter fun who =>
          (attempts who).login = login ∧ (heard who turns).any findsUnlisted = true
        let passed := counted.filter fun who => (heard who turns).any (passes key) = true
        gate.registry.count key + counted.card < wordSize →
          passed.card = min counted.card (limits.login - gate.registry.count key) ∧
          (∀ who ∈ counted, who ∉ passed ↔
            outcomes who = outcomeFor (attempts who) (some (.limit .login))) ∧
          after.state.2.count key = gate.registry.count key + counted.card) ∧
      ∀ key,
        let reached := turns.countP fun turn => hits key turn.exchange
        gate.registry.count key + reached < wordSize →
          after.state.2.count key = gate.registry.count key + reached := by
  intro gate crew turns after quiet outcomes finished
  have serves : Serves answerAfter crew.state turns after.state := crew.serves_run answerAfter slots
  have leads (who : ι) :
      Leads (judge limits (windows who) (attempts who)) (heard who turns) (done (outcomes who)) := by
    rw [← result?_eq_some_iff.mp (finished who)]
    exact crew.leads_run answerAfter slots who
  have asks : ∀ turn ∈ turns, Asks limits turn.call :=
    asks_of_judges limits windows attempts _ slots
  refine ⟨fun login => ?_, fun key => count_of_serves positive serves asks quiet⟩
  intro key counted passed room
  have answered (who : ι) :
      ∀ exchange ∈ heard who turns, ¬ Unanswered exchange.1 exchange.2 := by
    intro exchange member
    obtain ⟨turn, taken, -, rfl⟩ := mem_heard_iff.mp member
    exact not_unanswered_of_serves positive serves asks turn taken
  have hitCount : turns.countP (fun turn => hits key turn.exchange) = counted.card := by
    rw [← sum_countP_heard, Finset.card_filter]
    exact Finset.sum_congr rfl fun who _ => (of_leads_judge (leads who) (answered who) login).1
  have passCount : turns.countP (fun turn => passes key turn.exchange) = passed.card := by
    rw [← sum_countP_heard, show passed = _ from Finset.filter_filter _ _ _, Finset.card_filter]
    exact Finset.sum_congr rfl fun who _ => (of_leads_judge (leads who) (answered who) login).2.1
  have held : gate.registry.HeldTo key limits.login := by
    have governed := (governed_fresh store plan window limits).run events .login login
    rwa [limits_run] at governed
  rw [← hitCount] at room ⊢
  refine ⟨?_, fun who member => ?_, count_of_serves positive serves asks quiet room⟩
  · rw [← passCount]
    exact countP_passes_of_serves positive serves asks quiet held room
  · obtain ⟨-, leaving⟩ := Finset.mem_filter.mp member
    rw [← (of_leads_judge (leads who) (answered who) login).2.2 leaving, Finset.mem_filter]
    exact not_congr (and_iff_right member)

end Judges

/-- Three attempts look at the rules before any of them is counted, and one of them gets past the
limit, for which there was room for one. A fourth attempt is denied by a rule and not counted. -/
theorem judges_counted_of_four :
    let listed : Address := ⟨.v4, 1, by decide⟩
    let store := (MemoryStore.empty ⟨0, 0⟩ RuleId.ofNat).add ⟨.deny, .single listed⟩
    let limits : AttemptLimits := { login := 2 }
    let window : Window := ⟨100, by decide, by decide⟩
    let attempts : Fin 4 → Attempt := fun who =>
      ⟨"root", "guess", if who = 3 then listed else ⟨.v4, 0, by decide⟩⟩
    let gate := (fresh store (fun _ => none) window limits).run [.check (attempts 0), .advance 90]
    let slots : List (Nat × Fin 4) :=
      [(1, 0), (1, 1), (1, 3), (0, 2), (2, 1), (1, 0), (0, 2), (1, 1), (1, 1)]
    let crew := judges limits (fun _ => window) attempts (gate.store, gate.registry)
    let turns := crew.turns answerAfter slots
    let after := crew.run answerAfter slots
    let outcomes : Fin 4 → Outcome := fun who => outcomeFor (attempts who)
      ([some (.limit .login), none, some (.limit .login), some .rule].get who)
    let key := Aspect.login.key "root"
    let counted := Finset.univ.filter fun who =>
      (attempts who).login = "root" ∧ (heard who turns).any findsUnlisted = true
    Quiet crew.state turns ∧ (∀ who, (after.tasks who).result? = some (outcomes who)) ∧
      counted = {0, 1, 2} ∧ gate.registry.count key = 1 ∧
      (counted.filter fun who => (heard who turns).any (passes key) = true).card = 1 ∧
      after.state.2.count key = 1 + 3 := by
  intro listed store limits window attempts gate slots crew turns after outcomes key counted
  have quiet : Quiet crew.state turns := by decide +kernel
  have finished : ∀ who, (after.tasks who).result? = some (outcomes who) := by decide +kernel
  have members : counted = {0, 1, 2} := by decide +kernel
  have count : gate.registry.count key = 1 := by decide +kernel
  have positive : ∀ aspect, 0 < limits.of aspect := by
    intro aspect
    cases aspect <;> decide
  have room : gate.registry.count key + counted.card < wordSize := by
    rw [members, count]
    decide
  obtain ⟨passed, -, total⟩ :
      (counted.filter fun who => (heard who turns).any (passes key) = true).card =
        min counted.card (limits.login - gate.registry.count key) ∧ _ ∧
      after.state.2.count key = gate.registry.count key + counted.card :=
    (judges_counted store (fun _ => none) window limits positive
      [.check (attempts 0), .advance 90] (fun _ => window) attempts slots quiet outcomes
      finished).1 "root" room
  refine ⟨quiet, finished, members, count, ?_, ?_⟩
  · rw [passed, members, count]
    decide
  · rw [total, members, count]
    decide

end LoginGate.Gate
