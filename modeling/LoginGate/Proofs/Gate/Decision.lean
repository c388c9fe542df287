import LoginGate.Proofs.Gate.Measure
import LoginGate.Proofs.RuleStore.Lawful
import LoginGate.Proofs.Tally

/-! # What a gate decides

A judgement depends on what the lists say about the address, then on the three limits in turn. It
touches the buckets that it counts on and one counter of the tally, and nothing else.
-/

namespace LoginGate.Gate

open Procedure

variable {σ : Type} [RuleStore σ]

/-- What the store answers when it is asked for the rules that cover an address. -/
def lookup {β : Type} (gate : Gate σ β) (address : Address) : Except StoreFault (List Rule) :=
  (RuleStore.answer (.search (.containing address)) gate.store).1

def storeAfterLookup {β : Type} (gate : Gate σ β) (address : Address) : σ :=
  (RuleStore.answer (.search (.containing address)) gate.store).2

/-- A rule of this verdict covers the address. -/
def Lists {β : Type} [LawfulStore σ] (gate : Gate σ β) (verdict : Verdict) (address : Address) :
    Prop :=
  ∃ rule ∈ LawfulStore.rules gate.store, rule.verdict = verdict ∧ rule.network.covers address = true

instance {β : Type} [LawfulStore σ] (gate : Gate σ β) (verdict : Verdict) (address : Address) :
    Decidable (gate.Lists verdict address) :=
  inferInstanceAs (Decidable (∃ _ ∈ _, _))

/-- What the limiter answers for an aspect of an attempt when it is asked in turn: it fails if this
call is one that fails, and otherwise answers for the key of the aspect. -/
def reply (gate : Gate σ (UnreliableLimiter Registry)) (attempt : Attempt) (aspect : Aspect) :
    Except LimitsFault Bool :=
  gate.limiter.replyAfter (Aspect.all.idxOf aspect) (attempt.key aspect)
    (limitsFor gate.limits gate.window aspect)

/-- The calls that a judgement of an attempt makes. -/
def calls (gate : Gate σ (UnreliableLimiter Registry)) (attempt : Attempt) : List GateCall :=
  (judge gate.limits gate.window attempt).calls answer (gate.store, gate.limiter)

/-- The gate after a judgement that leaves the limiter as it is said to be. -/
def afterJudgement (gate : Gate σ (UnreliableLimiter Registry)) (attempt : Attempt)
    (limiter : UnreliableLimiter Registry) (outcome : Outcome) :
    Gate σ (UnreliableLimiter Registry) :=
  { gate with
    store := gate.storeAfterLookup attempt.address
    limiter
    tally := gate.tally.record outcome }

/-- The judgement of an attempt denies it for a reason, or for none, after it has asked for hits on
some aspects, and leaves the limiter as it is said to be. -/
structure Decides (gate : Gate σ (UnreliableLimiter Registry)) (attempt : Attempt)
    (reason : Option DenyReason) (asked : List Aspect) (limiter : UnreliableLimiter Registry) :
    Prop where
  check_eq : gate.check attempt =
    (outcomeFor attempt reason, gate.afterJudgement attempt limiter (outcomeFor attempt reason))
  calls_eq : gate.calls attempt =
    .rules (.search (.containing attempt.address)) ::
      asked.map fun aspect => .hit (attempt.key aspect) (limitsFor gate.limits gate.window aspect)

/-- What is left of a judgement once the rules that cover the address are known. -/
def proceed (limits : AttemptLimits) (window : Window) (attempt : Attempt) :
    Except StoreFault (List Rule) → Procedure GateCall.Answer Outcome
  | .error _ => done (outcomeFor attempt (some .internal))
  | .ok found =>
    match RuleBook.weigh found with
    | .allow => done (outcomeFor attempt none)
    | .deny => done (outcomeFor attempt (some .rule))
    | .unlisted => measure limits window attempt Aspect.all

/-! ## The lists -/

/-- The lists come first, and the limits only when they say nothing. -/
theorem judge_eq (limits : AttemptLimits) (window : Window) (attempt : Attempt) :
    judge limits window attempt =
      ask (.rules (.search (.containing attempt.address))) (proceed limits window attempt) := by
  rw [judge, RuleBook.classify, RuleBook.list, Procedure.map, Procedure.bind, embed]
  refine congrArg (ask _) (funext fun answered => ?_)
  cases answered with
  | error fault => rfl
  | ok found =>
    simp only [Procedure.bind, embed, Except.map, proceed]
    cases RuleBook.weigh found <;> rfl

section

variable [LawfulStore σ] {β : Type} {gate : Gate σ β} {address : Address} {found : List Rule}

private theorem exists_found_iff (looked : gate.lookup address = .ok found) (verdict : Verdict) :
    (∃ rule ∈ found, rule.verdict = verdict) ↔ gate.Lists verdict address := by
  have members := LawfulStore.mem_search gate.store (.containing address) found looked
  constructor
  · rintro ⟨rule, member, same⟩
    obtain ⟨held, covers⟩ := (members rule).mp member
    exact ⟨rule, held, same, covers⟩
  · rintro ⟨rule, held, same, covers⟩
    exact ⟨rule, (members rule).mpr ⟨held, covers⟩, same⟩

private theorem weigh_of_allow (looked : gate.lookup address = .ok found)
    (allowed : gate.Lists .allow address) : RuleBook.weigh found = .allow :=
  (RuleBook.weigh_eq_allow_iff found).mpr ((exists_found_iff looked .allow).mpr allowed)

private theorem weigh_of_deny (looked : gate.lookup address = .ok found)
    (notAllowed : ¬ gate.Lists .allow address) (denied : gate.Lists .deny address) :
    RuleBook.weigh found = .deny := by
  rw [RuleBook.weigh_eq_deny_iff, exists_found_iff looked, exists_found_iff looked]
  exact ⟨denied, notAllowed⟩

private theorem weigh_of_unlisted (looked : gate.lookup address = .ok found)
    (notAllowed : ¬ gate.Lists .allow address) (notDenied : ¬ gate.Lists .deny address) :
    RuleBook.weigh found = .unlisted := by
  cases weighed : RuleBook.weigh found with
  | unlisted => rfl
  | allow =>
    have allowed := (RuleBook.weigh_eq_allow_iff found).mp weighed
    exact absurd ((exists_found_iff looked .allow).mp allowed) notAllowed
  | deny =>
    have denied := ((RuleBook.weigh_eq_deny_iff found).mp weighed).1
    exact absurd ((exists_found_iff looked .deny).mp denied) notDenied

end

/-! ## The judgement -/

section

variable {gate : Gate σ (UnreliableLimiter Registry)} {attempt : Attempt}

/-- A judgement is what follows the lookup. -/
private theorem decides_of_proceed {reason : Option DenyReason} {asked : List Aspect}
    {limiter : UnreliableLimiter Registry} {rest : Procedure GateCall.Answer Outcome}
    (follows : proceed gate.limits gate.window attempt (gate.lookup attempt.address) = rest)
    (ran : rest.run answer (gate.storeAfterLookup attempt.address, gate.limiter) =
      (outcomeFor attempt reason, gate.storeAfterLookup attempt.address, limiter))
    (called : rest.calls answer (gate.storeAfterLookup attempt.address, gate.limiter) =
      asked.map fun aspect =>
        .hit (attempt.key aspect) (limitsFor gate.limits gate.window aspect)) :
    gate.Decides attempt reason asked limiter where
  check_eq := by
    have judgement : (judge gate.limits gate.window attempt).run answer (gate.store, gate.limiter) =
        (outcomeFor attempt reason, gate.storeAfterLookup attempt.address, limiter) := by
      rw [judge_eq, run_ask, ← ran, ← follows]
      rfl
    rw [check, judgement]
    rfl
  calls_eq := by
    rw [calls, judge_eq, calls_ask, ← called, ← follows]
    rfl

theorem decides_of_error {fault : StoreFault}
    (failed : gate.lookup attempt.address = .error fault) :
    gate.Decides attempt (some .internal) [] gate.limiter :=
  decides_of_proceed (by rw [failed, proceed]) rfl rfl

variable {found : List Rule}

private theorem decides_of_weigh_unlisted (looked : gate.lookup attempt.address = .ok found)
    (weighed : RuleBook.weigh found = .unlisted) :
    ∃ asked counted reason, Settled (gate.reply attempt) Aspect.all asked counted reason ∧
      gate.Decides attempt reason asked
        (measured gate.limits gate.window attempt gate.limiter asked counted) := by
  have distinct : Aspect.all.Nodup := by decide
  have replies : RepliesTo gate.limits gate.window attempt gate.limiter (gate.reply attempt)
      Aspect.all := fun _ _ => rfl
  obtain ⟨asked, counted, reason, settled, ran, called⟩ :=
    run_measure (gate.storeAfterLookup attempt.address) distinct replies
  have follows : proceed gate.limits gate.window attempt (gate.lookup attempt.address) =
      measure gate.limits gate.window attempt Aspect.all := by
    rw [looked, proceed, weighed]
  exact ⟨asked, counted, reason, settled, decides_of_proceed follows ran called⟩

/-- Every judgement is settled by the limits, or counts nothing. -/
theorem exists_decides (gate : Gate σ (UnreliableLimiter Registry)) (attempt : Attempt) :
    ∃ asked counted reason,
      gate.Decides attempt reason asked
        (measured gate.limits gate.window attempt gate.limiter asked counted) ∧
      (counted = [] ∨ Settled (gate.reply attempt) Aspect.all asked counted reason) := by
  cases looked : gate.lookup attempt.address with
  | error fault => exact ⟨[], [], _, decides_of_error looked, .inl rfl⟩
  | ok found =>
    cases weighed : RuleBook.weigh found with
    | allow =>
      have decides : gate.Decides attempt none [] gate.limiter :=
        decides_of_proceed (by rw [looked, proceed, weighed]) rfl rfl
      exact ⟨[], [], _, decides, .inl rfl⟩
    | deny =>
      have decides : gate.Decides attempt (some .rule) [] gate.limiter :=
        decides_of_proceed (by rw [looked, proceed, weighed]) rfl rfl
      exact ⟨[], [], _, decides, .inl rfl⟩
    | unlisted =>
      obtain ⟨asked, counted, reason, settled, decides⟩ := decides_of_weigh_unlisted looked weighed
      exact ⟨asked, counted, reason, decides, .inr settled⟩

variable [LawfulStore σ]

/-- An allow rule settles the attempt, whatever else is listed. -/
theorem decides_of_allow (looked : gate.lookup attempt.address = .ok found)
    (allowed : gate.Lists .allow attempt.address) :
    gate.Decides attempt none [] gate.limiter :=
  decides_of_proceed (by rw [looked, proceed, weigh_of_allow looked allowed]) rfl rfl

theorem decides_of_deny (looked : gate.lookup attempt.address = .ok found)
    (notAllowed : ¬ gate.Lists .allow attempt.address)
    (denied : gate.Lists .deny attempt.address) :
    gate.Decides attempt (some .rule) [] gate.limiter :=
  decides_of_proceed (by rw [looked, proceed, weigh_of_deny looked notAllowed denied]) rfl rfl

/-- An address that is not listed is left to the limits. -/
theorem decides_of_unlisted (looked : gate.lookup attempt.address = .ok found)
    (notAllowed : ¬ gate.Lists .allow attempt.address)
    (notDenied : ¬ gate.Lists .deny attempt.address) :
    ∃ asked counted reason, Settled (gate.reply attempt) Aspect.all asked counted reason ∧
      gate.Decides attempt reason asked
        (measured gate.limits gate.window attempt gate.limiter asked counted) :=
  decides_of_weigh_unlisted looked (weigh_of_unlisted looked notAllowed notDenied)

end

/-! ## The buckets -/

section

variable {gate : Gate σ (UnreliableLimiter Registry)} {attempt : Attempt}
  {asked counted : List Aspect} {reason : Option DenyReason}

omit [RuleStore σ] in
theorem Settled.usable (settled : Settled (gate.reply attempt) Aspect.all asked counted reason)
    {aspect : Aspect} (member : aspect ∈ counted) :
    (limitsFor gate.limits gate.window aspect).Usable := by
  obtain ⟨exceeded, replied⟩ := settled.reply_eq_ok aspect member
  rw [reply, UnreliableLimiter.replyAfter] at replied
  split at replied
  · cases replied
  · exact Registry.usable_of_hit replied

omit [RuleStore σ] in
/-- The bucket of an aspect that is within its limit is not full. -/
theorem Settled.isFull_eq_false
    (settled : Settled (gate.reply attempt) Aspect.all asked counted none) {aspect : Aspect}
    (member : aspect ∈ counted) :
    (gate.limiter.inner.bucketFor (attempt.key aspect) (limitsFor gate.limits gate.window aspect)
      (settled.usable member).period_pos).isFull = false := by
  have usable := settled.usable member
  cases settled with
  | within all =>
    have replied := all aspect member
    rw [reply, UnreliableLimiter.replyAfter] at replied
    split at replied
    · cases replied
    · rw [Registry.hit_of_usable _ _ usable] at replied
      exact Except.ok.inj replied

omit [RuleStore σ] in
theorem Settled.bucket?_measured
    (settled : Settled (gate.reply attempt) Aspect.all asked counted reason) {aspect : Aspect}
    (member : aspect ∈ counted) :
    (measured gate.limits gate.window attempt gate.limiter asked counted).inner.bucket?
        (attempt.key aspect) =
      some ((gate.limiter.inner.bucketFor (attempt.key aspect)
        (limitsFor gate.limits gate.window aspect) (settled.usable member).period_pos).hit
          gate.limiter.inner.now) := by
  have distinct : counted.Nodup := settled.counted_prefix.sublist.nodup (by decide)
  exact bucket?_countAll_of_mem distinct member (settled.usable member)

end

/-! ## Admission -/

/-- An attempt is admitted by the limits: it is admitted although no allow rule covers its
address. -/
def Admits [LawfulStore σ] (gate : Gate σ (UnreliableLimiter Registry)) (attempt : Attempt) : Prop :=
  (gate.check attempt).1.admitted = true ∧ ¬ gate.Lists .allow attempt.address

instance [LawfulStore σ] (gate : Gate σ (UnreliableLimiter Registry)) (attempt : Attempt) :
    Decidable (gate.Admits attempt) :=
  inferInstanceAs (Decidable (_ ∧ _))

/-- Only an outcome without a reason to deny admits. -/
private theorem eq_none_of_admitted {attempt : Attempt} {reason : Option DenyReason}
    (admitted : (outcomeFor attempt reason).admitted = true) : reason = none := by
  rcases reason with _ | _ | ⟨⟨⟩⟩ | _
  · rfl
  all_goals cases admitted

/-- What the limits admit is within all of them, and counted for every aspect. -/
theorem Admits.decides [LawfulStore σ] {gate : Gate σ (UnreliableLimiter Registry)}
    {attempt : Attempt} (admits : gate.Admits attempt) :
    Settled (gate.reply attempt) Aspect.all Aspect.all Aspect.all none ∧
      gate.Decides attempt none Aspect.all
        (measured gate.limits gate.window attempt gate.limiter Aspect.all Aspect.all) := by
  obtain ⟨admitted, notAllowed⟩ := admits
  cases looked : gate.lookup attempt.address with
  | error fault =>
    rw [(decides_of_error looked).check_eq] at admitted
    cases admitted
  | ok found =>
    by_cases denied : gate.Lists .deny attempt.address
    · rw [(decides_of_deny looked notAllowed denied).check_eq] at admitted
      cases admitted
    · obtain ⟨asked, counted, reason, settled, decides⟩ :=
        decides_of_unlisted looked notAllowed denied
      rw [decides.check_eq] at admitted
      obtain rfl := eq_none_of_admitted admitted
      cases settled with
      | within all => exact ⟨.within all, decides⟩

/-! ## The law -/

/-- The decision law of a gate. A lookup that fails is an internal error; then an allow rule admits
the attempt and a deny rule refuses it, and none of these touches a bucket. An attempt that is not
listed is hit on its login, its password and its address, in this order and up to the first hit that
fails or is past the limit. The buckets of the hits that do not fail count one more, and nothing
else changes but one counter of the tally. -/
theorem check_decides [LawfulStore σ] (gate : Gate σ (UnreliableLimiter Registry))
    (attempt : Attempt) :
    let outcome := (gate.check attempt).1
    let after := (gate.check attempt).2
    let search : GateCall := .rules (.search (.containing attempt.address))
    let untouched := gate.calls attempt = [search] ∧ after.limiter = gate.limiter
    let buckets := gate.limiter.inner.bucket?
    let now := clamped gate.limiter.inner.now
    (∀ fault, gate.lookup attempt.address = .error fault →
      outcome = outcomeFor attempt (some .internal) ∧ untouched) ∧
    (∀ found, gate.lookup attempt.address = .ok found →
      (gate.Lists .allow attempt.address →
        outcome = outcomeFor attempt none ∧ untouched) ∧
      (¬ gate.Lists .allow attempt.address → gate.Lists .deny attempt.address →
        outcome = outcomeFor attempt (some .rule) ∧ untouched) ∧
      (¬ gate.Lists .allow attempt.address → ¬ gate.Lists .deny attempt.address →
        ∃ asked counted reason, Settled (gate.reply attempt) Aspect.all asked counted reason ∧
          outcome = outcomeFor attempt reason ∧
          gate.calls attempt = search :: asked.map (fun aspect =>
            .hit (attempt.key aspect) ⟨gate.window.span, gate.limits.of aspect⟩) ∧
          (∀ aspect ∈ counted,
            (∀ old, buckets (attempt.key aspect) = some old →
              after.limiter.inner.bucket? (attempt.key aspect) =
                some { old with count := (old.count + 1) % wordSize, touched := now }) ∧
            (buckets (attempt.key aspect) = none →
              ∃ new, after.limiter.inner.bucket? (attempt.key aspect) = some new ∧
                new.limits = ⟨gate.window.span, gate.limits.of aspect⟩ ∧
                new.due = Bucket.boundaryAfter new.limits gate.limiter.inner.now ∧
                new.count = 1 ∧ new.touched = now)) ∧
          ∀ key, (∀ aspect ∈ counted, attempt.key aspect ≠ key) →
            after.limiter.inner.bucket? key = buckets key)) ∧
    (∀ counter, after.tally.read counter =
      if counter = .of outcome.reason then (gate.tally.read counter + 1) % UInt64.size
      else gate.tally.read counter) ∧
    after.limiter.inner.now = gate.limiter.inner.now ∧ after.window = gate.window ∧
    after.limits = gate.limits ∧
    LawfulStore.rules after.store = LawfulStore.rules gate.store := by
  refine ⟨fun fault failed => ?_, fun found looked => ⟨fun allowed => ?_,
    fun notAllowed denied => ?_, fun notAllowed notDenied => ?_⟩, fun counter => ?_, ?_⟩
  · have decides := decides_of_error failed
    rw [decides.check_eq]
    exact ⟨rfl, decides.calls_eq, rfl⟩
  · have decides := decides_of_allow looked allowed
    rw [decides.check_eq]
    exact ⟨rfl, decides.calls_eq, rfl⟩
  · have decides := decides_of_deny looked notAllowed denied
    rw [decides.check_eq]
    exact ⟨rfl, decides.calls_eq, rfl⟩
  · obtain ⟨asked, counted, reason, settled, decides⟩ :=
      decides_of_unlisted looked notAllowed notDenied
    rw [decides.check_eq]
    refine ⟨asked, counted, reason, settled, rfl, decides.calls_eq, fun aspect member => ?_,
      fun key differs => bucket?_countAll_of_ne differs⟩
    have counts := settled.bucket?_measured member
    rw [Registry.bucketFor] at counts
    refine ⟨fun old present => ?_, fun absent => ?_⟩
    · rw [present] at counts
      exact counts
    · rw [absent] at counts
      exact ⟨_, counts, rfl, rfl, rfl, rfl⟩
  · exact Tally.read_record gate.tally _ counter
  · obtain ⟨asked, counted, reason, decides, -⟩ := gate.exists_decides attempt
    rw [decides.check_eq]
    exact ⟨now_countAll counted, rfl, rfl, LawfulStore.rules_search gate.store _⟩

/-- The first attempt at a gate without rules is admitted and opens a bucket for each of its
values. -/
theorem check_decides_first :
    let gate : Gate MemoryStore (UnreliableLimiter Registry) :=
      { store := .empty ⟨0, 0⟩ RuleId.ofNat
        limiter := .reliable .empty
        window := ⟨100, by decide, by decide⟩
        limits := {} }
    let attempt : Attempt := ⟨"root", "guess", ⟨.v4, 0, by decide⟩⟩
    gate.lookup attempt.address = .ok [] ∧
      ¬ gate.Lists .allow attempt.address ∧ ¬ gate.Lists .deny attempt.address ∧
      (gate.check attempt).1 = outcomeFor attempt none ∧
      ∀ aspect, ∃ new,
        (gate.check attempt).2.limiter.inner.bucket? (attempt.key aspect) = some new ∧
        new.limits = ⟨gate.window.span, gate.limits.of aspect⟩ ∧ new.count = 1 := by
  intro gate attempt
  have looked : gate.lookup attempt.address = .ok [] := by decide +kernel
  have notAllowed : ¬ gate.Lists .allow attempt.address := by decide +kernel
  have notDenied : ¬ gate.Lists .deny attempt.address := by decide +kernel
  have admitted : (gate.check attempt).1 = outcomeFor attempt none := by decide +kernel
  obtain ⟨-, law, -⟩ := check_decides gate attempt
  obtain ⟨asked, counted, reason, settled, outcome, -, counts, -⟩ :=
    (law [] looked).2.2 notAllowed notDenied
  obtain rfl : reason = none :=
    eq_none_of_admitted ((congrArg Outcome.admitted (outcome.symm.trans admitted)).trans rfl)
  refine ⟨looked, notAllowed, notDenied, admitted, fun aspect => ?_⟩
  have member : aspect ∈ counted := by
    cases settled with
    | within all => cases aspect <;> decide
  obtain ⟨new, present, same, -, count, -⟩ := (counts aspect member).2 (Registry.bucket?_empty _)
  exact ⟨new, present, same, count⟩

/-- An attempt that is refused on its login is not counted for its password. -/
example :
    let gate : Gate MemoryStore (UnreliableLimiter Registry) :=
      { store := .empty ⟨0, 0⟩ RuleId.ofNat
        limiter := .reliable .empty
        window := ⟨100, by decide, by decide⟩
        limits := { login := 1 } }
    let first := gate.check ⟨"root", "guess", ⟨.v4, 0, by decide⟩⟩
    let second := first.2.check ⟨"root", "other", ⟨.v4, 0, by decide⟩⟩
    first.1.admitted = true ∧ second.1.reason = some (.limit .login) ∧
      second.2.limiter.inner.keys = ["ip_0.0.0.0", "login_root", "password_guess"] := by
  decide +kernel

end LoginGate.Gate
