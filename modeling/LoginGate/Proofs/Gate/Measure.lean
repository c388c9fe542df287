import LoginGate.Gate
import LoginGate.Proofs.Procedure
import LoginGate.Proofs.Registry.Independence

/-! # Measuring an attempt

An attempt that no rule settles is hit on its three keys, one after the other. The keys are
different, so each hit is answered as if it came first, except that the limiter may fail at one call
and not at another. What is asked, what is counted and what comes out follows from these answers.
-/

namespace LoginGate

namespace Registry

/-- A hit that fails leaves no trace. -/
theorem hit_snd_of_error {registry : Registry} {key : String} {limits : Limits}
    {fault : LimitsFault} (failed : (registry.hit key limits).1 = .error fault) :
    (registry.hit key limits).2 = registry := by
  cases validated : limits.validate with
  | error fault => rw [hit_of_error registry key validated]
  | ok valid =>
    rw [hit_of_usable registry key (limits.usable_of_validate validated)] at failed
    cases failed

theorem usable_of_hit {registry : Registry} {key : String} {limits : Limits} {exceeded : Bool}
    (answered : (registry.hit key limits).1 = .ok exceeded) : limits.Usable := by
  cases validated : limits.validate with
  | error fault =>
    rw [hit_of_error registry key validated] at answered
    cases answered
  | ok valid => exact limits.usable_of_validate validated

end Registry

namespace UnreliableLimiter

/-- What the limiter answers to a hit on a key after some more hits on other keys. -/
def replyAfter (limiter : UnreliableLimiter Registry) (earlier : Nat) (key : String)
    (limits : Limits) : Except LimitsFault Bool :=
  match limiter.plan (limiter.hits + earlier) with
  | some fault => .error fault
  | none => (limiter.inner.hit key limits).1

end UnreliableLimiter

/-- The key under which an attempt is counted for an aspect. -/
def Attempt.key (attempt : Attempt) (aspect : Aspect) : String :=
  aspect.key (attempt.value aspect)

theorem Attempt.key_inj {attempt : Attempt} {aspect other : Aspect} :
    attempt.key aspect = attempt.key other ↔ aspect = other := by
  rw [key, key, Aspect.key_inj]
  exact ⟨And.left, fun same => ⟨same, by rw [same]⟩⟩

namespace Gate

open Procedure

/-- What the answers to the hits on some aspects lead to: the aspects that are asked for, the ones
that are counted, and why the attempt is denied, if it is. -/
inductive Settled (reply : Aspect → Except LimitsFault Bool) (aspects : List Aspect) :
    List Aspect → List Aspect → Option DenyReason → Prop
  /-- All are within their limits. -/
  | within (all : ∀ aspect ∈ aspects, reply aspect = .ok false) :
    Settled reply aspects aspects aspects none
  /-- The first one that is not within its limit exceeds it. -/
  | exceeded {passed later : List Aspect} {aspect : Aspect}
    (split : aspects = passed ++ aspect :: later)
    (before : ∀ earlier ∈ passed, reply earlier = .ok false) (here : reply aspect = .ok true) :
    Settled reply aspects (passed ++ [aspect]) (passed ++ [aspect]) (some (.limit aspect))
  /-- The first one that is not within its limit could not be counted. -/
  | failed {passed later : List Aspect} {aspect : Aspect} {fault : LimitsFault}
    (split : aspects = passed ++ aspect :: later)
    (before : ∀ earlier ∈ passed, reply earlier = .ok false)
    (here : reply aspect = .error fault) :
    Settled reply aspects (passed ++ [aspect]) passed (some .internal)

/-- The outcome of an attempt for a reason to deny it, or for none. -/
def outcomeFor (attempt : Attempt) : Option DenyReason → Outcome
  | none => ⟨true, none, none, none⟩
  | some .internal => ⟨false, some .internal, some 3001, some "service unavailable"⟩
  | some .rule =>
    ⟨false, some .rule, some 3002, some s!"address {attempt.address} is on the deny list"⟩
  | some (.limit .login) =>
    ⟨false, some (.limit .login), some 3003,
      some s!"request limit reached for login {attempt.login}"⟩
  | some (.limit .password) =>
    ⟨false, some (.limit .password), some 3004,
      some s!"request limit reached for password {attempt.password}"⟩
  | some (.limit .address) =>
    ⟨false, some (.limit .address), some 3005,
      some s!"request limit reached for ip {attempt.address}"⟩

/-- The registry after hits on some aspects. -/
def countAll (limits : AttemptLimits) (window : Window) (attempt : Attempt) (registry : Registry)
    (aspects : List Aspect) : Registry :=
  aspects.foldl
    (fun registry aspect =>
      (registry.hit (attempt.key aspect) (limitsFor limits window aspect)).2)
    registry

/-! ## What is settled -/

section Settled

variable {reply : Aspect → Except LimitsFault Bool} {aspects asked counted : List Aspect}
  {aspect : Aspect} {reason : Option DenyReason}

/-- An aspect within its limit leaves the decision to the others. -/
theorem Settled.cons (here : reply aspect = .ok false)
    (rest : Settled reply aspects asked counted reason) :
    Settled reply (aspect :: aspects) (aspect :: asked) (aspect :: counted) reason := by
  cases rest with
  | within all => exact .within (List.forall_mem_cons.mpr ⟨here, all⟩)
  | @exceeded passed later other split before there =>
    have all : ∀ earlier ∈ aspect :: passed, reply earlier = .ok false :=
      List.forall_mem_cons.mpr ⟨here, before⟩
    have split' : aspect :: aspects = (aspect :: passed) ++ other :: later :=
      congrArg (aspect :: ·) split
    exact Settled.exceeded split' all there
  | @failed passed later other fault split before there =>
    have all : ∀ earlier ∈ aspect :: counted, reply earlier = .ok false :=
      List.forall_mem_cons.mpr ⟨here, before⟩
    have split' : aspect :: aspects = (aspect :: counted) ++ other :: later :=
      congrArg (aspect :: ·) split
    exact Settled.failed split' all there

theorem Settled.reply_eq_ok (settled : Settled reply aspects asked counted reason) :
    ∀ aspect ∈ counted, ∃ exceeded, reply aspect = .ok exceeded := by
  intro aspect member
  cases settled with
  | within all => exact ⟨false, all aspect member⟩
  | exceeded split before here =>
    rcases List.mem_append.mp member with earlier | last
    · exact ⟨false, before aspect earlier⟩
    · rw [List.mem_singleton.mp last]
      exact ⟨true, here⟩
  | failed split before here => exact ⟨false, before aspect member⟩

/-- Only what is asked for is counted. -/
theorem Settled.asked_pos (settled : Settled reply aspects asked counted reason)
    (member : aspect ∈ counted) : 0 < asked.length := by
  cases settled with
  | within all => exact List.length_pos_of_mem member
  | exceeded split before here => exact List.length_pos_of_mem member
  | failed split before here => exact List.length_pos_of_mem (List.mem_append_left _ member)

/-- What is counted is counted in the order of the aspects. -/
theorem Settled.counted_prefix (settled : Settled reply aspects asked counted reason) :
    counted <+: aspects := by
  cases settled with
  | within all => exact List.prefix_refl _
  | exceeded split before here =>
    rw [split]
    exact ⟨_, by rw [List.append_assoc, List.singleton_append]⟩
  | failed split before here =>
    rw [split]
    exact ⟨_, rfl⟩

end Settled

/-! ## The buckets -/

section

variable {limits : AttemptLimits} {window : Window} {attempt : Attempt} {registry : Registry}

@[simp]
theorem now_countAll (aspects : List Aspect) :
    (countAll limits window attempt registry aspects).now = registry.now := by
  induction aspects generalizing registry with
  | nil => rfl
  | cons aspect rest ih => exact ih.trans (Registry.now_hit _ _ _)

theorem bucket?_countAll_of_ne {aspects : List Aspect} {key : String}
    (differs : ∀ aspect ∈ aspects, attempt.key aspect ≠ key) :
    (countAll limits window attempt registry aspects).bucket? key = registry.bucket? key := by
  induction aspects generalizing registry with
  | nil => rfl
  | cons aspect rest ih =>
    obtain ⟨first, others⟩ := List.forall_mem_cons.mp differs
    exact (ih others).trans (Registry.bucket?_hit_of_ne _ first)

theorem bucket?_countAll_of_mem {aspects : List Aspect} (distinct : aspects.Nodup)
    {aspect : Aspect} (member : aspect ∈ aspects)
    (usable : (limitsFor limits window aspect).Usable) :
    (countAll limits window attempt registry aspects).bucket? (attempt.key aspect) =
      some ((registry.bucketFor (attempt.key aspect) (limitsFor limits window aspect)
        usable.period_pos).hit registry.now) := by
  induction aspects generalizing registry with
  | nil => cases member
  | cons first rest ih =>
    obtain ⟨absent, distinct⟩ := List.nodup_cons.mp distinct
    by_cases same : aspect = first
    · subst same
      have differs : ∀ other ∈ rest, attempt.key other ≠ attempt.key aspect := by
        intro other present equal
        exact absent (Attempt.key_inj.mp equal ▸ present)
      refine (bucket?_countAll_of_ne differs).trans ?_
      rw [Registry.bucket?_hit _ _ _ usable, if_pos rfl]
    · have later := (List.mem_cons.mp member).resolve_left same
      have differs : attempt.key first ≠ attempt.key aspect :=
        fun equal => same (Attempt.key_inj.mp equal).symm
      refine (ih distinct later).trans ?_
      rw [Registry.now_hit, Registry.bucketFor, Registry.bucketFor,
        Registry.bucket?_hit_of_ne _ differs, Registry.now_hit]

end

/-! ## Asking -/

section

variable {σ : Type} [RuleStore σ] {limits : AttemptLimits} {window : Window} {attempt : Attempt}
  {reply : Aspect → Except LimitsFault Bool}

/-- The limiter after the hits on some aspects, of which some were counted. -/
def measured (limits : AttemptLimits) (window : Window) (attempt : Attempt)
    (limiter : UnreliableLimiter Registry) (asked counted : List Aspect) :
    UnreliableLimiter Registry :=
  { limiter with
    inner := countAll limits window attempt limiter.inner counted
    hits := limiter.hits + asked.length }

/-- The answers to the hits on some aspects, when they are hit in order. -/
def RepliesTo (limits : AttemptLimits) (window : Window) (attempt : Attempt)
    (limiter : UnreliableLimiter Registry) (reply : Aspect → Except LimitsFault Bool)
    (aspects : List Aspect) : Prop :=
  ∀ aspect ∈ aspects, reply aspect =
    limiter.replyAfter (aspects.idxOf aspect) (attempt.key aspect) (limitsFor limits window aspect)

private theorem RepliesTo.first {limiter : UnreliableLimiter Registry} {aspect : Aspect}
    {rest : List Aspect}
    (replies : RepliesTo limits window attempt limiter reply (aspect :: rest)) :
    reply aspect =
      limiter.replyAfter 0 (attempt.key aspect) (limitsFor limits window aspect) := by
  rw [replies aspect List.mem_cons_self, List.idxOf_cons_self]

/-- Once the first aspect is counted, the others are answered as they would have been before. -/
private theorem RepliesTo.rest {limiter : UnreliableLimiter Registry} {aspect : Aspect}
    {rest : List Aspect} (absent : aspect ∉ rest)
    (replies : RepliesTo limits window attempt limiter reply (aspect :: rest)) :
    RepliesTo limits window attempt (measured limits window attempt limiter [aspect] [aspect])
      reply rest := by
  intro other member
  have differs : aspect ≠ other := fun same => absent (same ▸ member)
  rw [replies other (List.mem_cons_of_mem _ member), List.idxOf_cons, beq_false_of_ne differs,
    cond_false, UnreliableLimiter.replyAfter, UnreliableLimiter.replyAfter]
  have position : limiter.hits + (rest.idxOf other + 1) =
      limiter.hits + [aspect].length + rest.idxOf other := by
    rw [List.length_singleton]
    omega
  have buckets : limiter.inner.bucket? (attempt.key other) =
      (countAll limits window attempt limiter.inner [aspect]).bucket? (attempt.key other) := by
    refine (bucket?_countAll_of_ne fun counted present equal => ?_).symm
    obtain rfl := List.mem_singleton.mp present
    exact differs (Attempt.key_inj.mp equal)
  have agree : Registry.AgreesOn (attempt.key other) limiter.inner
      (countAll limits window attempt limiter.inner [aspect]) := ⟨(now_countAll [aspect]).symm, buckets⟩
  have same := agree.hit_fst (limitsFor limits window other)
  rw [position, same]
  rfl

/-- A hit that fails is asked for and not counted. -/
private theorem hit_of_error {limiter : UnreliableLimiter Registry} {aspect : Aspect}
    {fault : LimitsFault}
    (here : limiter.replyAfter 0 (attempt.key aspect) (limitsFor limits window aspect) =
      .error fault) :
    Limiter.hit (attempt.key aspect) (limitsFor limits window aspect) limiter =
      (.error fault, measured limits window attempt limiter [aspect] []) := by
  rw [UnreliableLimiter.replyAfter, Nat.add_zero] at here
  cases planned : limiter.plan limiter.hits with
  | some failure =>
    simp only [planned] at here
    obtain rfl := Except.error.inj here
    simp only [Limiter.hit, planned]
    rfl
  | none =>
    simp only [planned] at here
    simp only [Limiter.hit, planned, here, Registry.hit_snd_of_error here]
    rfl

private theorem hit_of_ok {limiter : UnreliableLimiter Registry} {aspect : Aspect}
    {exceeded : Bool}
    (here : limiter.replyAfter 0 (attempt.key aspect) (limitsFor limits window aspect) =
      .ok exceeded) :
    Limiter.hit (attempt.key aspect) (limitsFor limits window aspect) limiter =
      (.ok exceeded, measured limits window attempt limiter [aspect] [aspect]) := by
  rw [UnreliableLimiter.replyAfter, Nat.add_zero] at here
  cases planned : limiter.plan limiter.hits with
  | some failure =>
    simp only [planned] at here
    cases here
  | none =>
    simp only [planned] at here
    simp only [Limiter.hit, planned, here]
    rfl

/-- Measuring goes on from where the first aspect left the limiter. -/
private theorem measured_cons (limiter : UnreliableLimiter Registry) (aspect : Aspect)
    (asked counted : List Aspect) :
    measured limits window attempt (measured limits window attempt limiter [aspect] [aspect])
        asked counted =
      measured limits window attempt limiter (aspect :: asked) (aspect :: counted) := by
  have hits : limiter.hits + [aspect].length + asked.length =
      limiter.hits + (aspect :: asked).length := by
    simp only [List.length_cons, List.length_nil]
    omega
  simp only [measured, hits]
  rfl

/-- Measuring asks for a hit on the first aspect and goes on when it is within its limit. -/
theorem measure_cons (aspect : Aspect) (rest : List Aspect) :
    measure limits window attempt (aspect :: rest) =
      ask (.hit (attempt.key aspect) (limitsFor limits window aspect)) fun
        | .ok false => measure limits window attempt rest
        | .ok true => done (outcomeFor attempt (some (.limit aspect)))
        | .error _ => done (outcomeFor attempt (some .internal)) := by
  rw [measure]
  refine congrArg (ask _) (funext fun reply => ?_)
  split
  · rfl
  · cases aspect <;> rfl
  · rfl

private theorem answer_hit (store : σ) {limiter after : UnreliableLimiter Registry} {key : String}
    {limits : Limits} {reply : Except LimitsFault Bool}
    (asked : Limiter.hit key limits limiter = (reply, after)) :
    answer (.hit key limits) (store, limiter) = (reply, store, after) := by
  rw [answer, asked]

/-- The hits on some aspects, one after the other, until one of them settles the attempt. -/
theorem run_measure (store : σ) {aspects : List Aspect} (distinct : aspects.Nodup)
    {limiter : UnreliableLimiter Registry}
    (replies : RepliesTo limits window attempt limiter reply aspects) :
    ∃ asked counted reason, Settled reply aspects asked counted reason ∧
      (measure limits window attempt aspects).run answer (store, limiter) =
        (outcomeFor attempt reason, store,
          measured limits window attempt limiter asked counted) ∧
      (measure limits window attempt aspects).calls answer (store, limiter) =
        asked.map fun aspect =>
          .hit (attempt.key aspect) (limitsFor limits window aspect) := by
  induction aspects generalizing limiter with
  | nil => exact ⟨[], [], none, .within (fun _ impossible => by cases impossible), rfl, rfl⟩
  | cons aspect rest ih =>
    obtain ⟨absent, distinct⟩ := List.nodup_cons.mp distinct
    have here := replies.first
    have none : ∀ earlier ∈ ([] : List Aspect), reply earlier = .ok false :=
      List.forall_mem_nil _
    rw [measure_cons, run_ask, calls_ask]
    cases replied : reply aspect with
    | error fault =>
      rw [answer_hit store (hit_of_error (here.symm.trans replied))]
      exact ⟨[aspect], [], _, .failed rfl none replied, rfl, rfl⟩
    | ok exceeded =>
      rw [answer_hit store (hit_of_ok (here.symm.trans replied))]
      cases exceeded with
      | true => exact ⟨[aspect], [aspect], _, .exceeded rfl none replied, rfl, rfl⟩
      | false =>
        obtain ⟨others, counted, reason, settled, ran, called⟩ := ih distinct (replies.rest absent)
        refine ⟨aspect :: others, aspect :: counted, reason, settled.cons replied, ?_, ?_⟩
        · exact ran.trans (by rw [measured_cons])
        · exact congrArg (_ :: ·) called

end

end Gate
end LoginGate
