import LoginGate.Registry

/-! # Keys do not interfere

What a registry tells about a key depends on the bucket of that key and on the clock, and an event
on another key changes neither. So a run tells the same about a key when the hits and resets of other
keys are left out of it, and where two of them on different keys follow each other, they may change
places.
-/

namespace LoginGate.Registry

/-! ## What a run tells -/

/-- What a caller learns from an event. -/
inductive Reply where
  /-- A hit is counted, and the limit exceeded or not. -/
  | counted (exceeded : Bool)
  /-- A hit is not counted. -/
  | refused (fault : LimitsFault)
  /-- A key is reset, whether it was live or not. -/
  | reset (found : Bool)
  /-- Nothing is told when time passes or all buckets are removed. -/
  | silent
  deriving DecidableEq, Repr

def Reply.ofHit : Except LimitsFault Bool → Reply
  | .ok exceeded => counted exceeded
  | .error fault => refused fault

/-- What an event tells. -/
def reply (registry : Registry) : Event → Reply
  | .hit key limits => .ofHit (registry.hit key limits).1
  | .reset key => .reset (registry.reset key).1
  | .advance _ | .shutdown => .silent

def transcript : Registry → List Event → List (Event × Reply)
  | _, [] => []
  | registry, event :: rest => (event, registry.reply event) :: transcript (registry.after event) rest

def Event.key? : Event → Option String
  | .hit key _ | .reset key => some key
  | .advance _ | .shutdown => none

/-- The event is no hit or reset of another key. -/
def Event.concerns (key : String) (event : Event) : Bool :=
  event.key?.all (· == key)

theorem transcript_append (registry : Registry) (first second : List Event) :
    registry.transcript (first ++ second) =
      registry.transcript first ++ (registry.run first).transcript second := by
  induction first generalizing registry with
  | nil => rfl
  | cons event rest ih => exact congrArg (_ :: ·) (ih (registry.after event))

/-! ## What a key depends on -/

variable {registry first second third : Registry} {key : String}

/-- The registries have the same time, and the same bucket for the key if any. -/
structure AgreesOn (key : String) (first second : Registry) : Prop where
  clocks : first.now = second.now
  buckets : first.bucket? key = second.bucket? key

theorem now_after_of_key? {event : Event} (named : event.key? = some key) :
    (registry.after event).now = registry.now := by
  cases event with
  | hit other limits => exact now_hit registry other limits
  | reset other => rfl
  | advance nanos => cases named
  | shutdown => cases named

theorem bucket?_hit_of_ne {other : String} (limits : Limits) (differs : key ≠ other) :
    (registry.hit key limits).2.bucket? other = registry.bucket? other :=
  (bucket?_hit_cases registry key other limits).resolve_right fun own => differs own.1

/-- An event on another key changes nothing for the key. -/
theorem agreesOn_after_of_ne {event : Event} {other : String} (named : event.key? = some other)
    (differs : other ≠ key) : AgreesOn key (registry.after event) registry where
  clocks := now_after_of_key? named
  buckets := by
    cases event with
    | hit named' limits =>
      obtain rfl := Option.some.inj named
      exact bucket?_hit_of_ne limits differs
    | reset named' =>
      obtain rfl := Option.some.inj named
      rw [after, bucket?_reset, if_neg differs]
    | advance nanos => cases named
    | shutdown => cases named

namespace AgreesOn

theorem refl (key : String) (registry : Registry) : AgreesOn key registry registry :=
  ⟨rfl, rfl⟩

theorem symm (agree : AgreesOn key first second) : AgreesOn key second first :=
  ⟨agree.clocks.symm, agree.buckets.symm⟩

theorem trans (left : AgreesOn key first second) (right : AgreesOn key second third) :
    AgreesOn key first third :=
  ⟨left.clocks.trans right.clocks, left.buckets.trans right.buckets⟩

/-- Registries that agree on a key answer its hits alike. -/
theorem hit_fst (agree : AgreesOn key first second) (limits : Limits) :
    (first.hit key limits).1 = (second.hit key limits).1 := by
  cases validated : limits.validate with
  | error fault => rw [hit_of_error first key validated, hit_of_error second key validated]
  | ok valid =>
    have usable := limits.usable_of_validate validated
    rw [hit_of_usable first key usable, hit_of_usable second key usable, bucketFor, bucketFor,
      agree.clocks, agree.buckets]

theorem contains (agree : AgreesOn key first second) : first.contains key = second.contains key := by
  rw [contains_eq, contains_eq, agree.buckets]

/-- Registries that agree on a key are told apart by no event that concerns it. -/
theorem reply (agree : AgreesOn key first second) {event : Event}
    (concerns : event.concerns key = true) : first.reply event = second.reply event := by
  cases event with
  | hit other limits =>
    obtain rfl : other = key := beq_iff_eq.mp concerns
    exact congrArg Reply.ofHit (agree.hit_fst limits)
  | reset other =>
    obtain rfl : other = key := beq_iff_eq.mp concerns
    exact congrArg Reply.reset agree.contains
  | advance nanos => rfl
  | shutdown => rfl

private theorem hit_snd (agree : AgreesOn key first second) (limits : Limits) :
    AgreesOn key (first.hit key limits).2 (second.hit key limits).2 where
  clocks := by rw [now_hit, now_hit, agree.clocks]
  buckets := by
    cases validated : limits.validate with
    | error fault =>
      rw [hit_of_error first key validated, hit_of_error second key validated]
      exact agree.buckets
    | ok valid =>
      have usable := limits.usable_of_validate validated
      rw [bucket?_hit first key key usable, bucket?_hit second key key usable, bucketFor, bucketFor,
        agree.clocks, agree.buckets]

theorem after (agree : AgreesOn key first second) (event : Event) :
    AgreesOn key (first.after event) (second.after event) := by
  cases event with
  | hit other limits =>
    by_cases own : other = key
    · subst own
      exact agree.hit_snd limits
    · exact ((agreesOn_after_of_ne rfl own).trans agree).trans (agreesOn_after_of_ne rfl own).symm
  | advance nanos =>
    refine ⟨congrArg (· + nanos) agree.clocks, ?_⟩
    rw [Registry.after, Registry.after, bucket?_advance, bucket?_advance, agree.clocks,
      agree.buckets]
  | reset other =>
    refine ⟨agree.clocks, ?_⟩
    rw [Registry.after, Registry.after, bucket?_reset, bucket?_reset, agree.buckets]
  | shutdown => exact ⟨agree.clocks, by rw [Registry.after, Registry.after, bucket?_shutdown,
      bucket?_shutdown]⟩

end AgreesOn

/-! ## Leaving events out -/

private theorem key?_of_not_concerns {event : Event} (apart : event.concerns key = false) :
    ∃ other, event.key? = some other ∧ other ≠ key := by
  cases named : event.key? with
  | none =>
    rw [Event.concerns, named] at apart
    cases apart
  | some other =>
    rw [Event.concerns, named, Option.all_some, beq_eq_false_iff_ne] at apart
    exact ⟨other, rfl, apart⟩

/-- An event that does not concern the key is not noticed. -/
private theorem AgreesOn.skip (agree : AgreesOn key first second) {event : Event}
    (apart : event.concerns key = false) : AgreesOn key (first.after event) second := by
  obtain ⟨other, named, differs⟩ := key?_of_not_concerns apart
  exact (agreesOn_after_of_ne named differs).trans agree

/-- After a run the bucket of a key is what the events that concern the key have made of it. -/
theorem AgreesOn.run_filter (agree : AgreesOn key first second) (events : List Event) :
    AgreesOn key (first.run events) (second.run (events.filter (Event.concerns key))) := by
  induction events generalizing first second with
  | nil => exact agree
  | cons event rest ih =>
    cases concerns : event.concerns key with
    | true =>
      rw [List.filter_cons_of_pos concerns]
      exact ih (agree.after event)
    | false =>
      rw [List.filter_cons_of_neg (Bool.eq_false_iff.mp concerns)]
      exact ih (agree.skip concerns)

/-- The events that concern a key tell what they would have told by themselves. -/
theorem AgreesOn.transcript_filter (agree : AgreesOn key first second) (events : List Event) :
    (first.transcript events).filter (fun told => told.1.concerns key) =
      second.transcript (events.filter (Event.concerns key)) := by
  induction events generalizing first second with
  | nil => rfl
  | cons event rest ih =>
    cases concerns : event.concerns key with
    | true =>
      simp only [transcript, List.filter_cons, concerns, if_true]
      rw [ih (agree.after event), agree.reply concerns]
    | false =>
      simp only [transcript, List.filter_cons, concerns, Bool.false_eq_true, if_false]
      exact ih (agree.skip concerns)

/-! ## Changing places -/

section

variable {earlier later : Event} {other : String}

/-- The order of two events on different keys makes no difference. -/
theorem after_comm (registry : Registry) (named : earlier.key? = some key)
    (named' : later.key? = some other) (differs : key ≠ other) :
    (registry.after earlier).after later = (registry.after later).after earlier := by
  refine Registry.ext ?_ fun asked => ?_
  · simp only [now_after_of_key? named, now_after_of_key? named']
  · by_cases own : key = asked
    · -- The later event is not noticed at the key of the earlier one, in either order.
      subst own
      have unnoticed : AgreesOn key (registry.after later) registry :=
        agreesOn_after_of_ne named' differs.symm
      exact ((agreesOn_after_of_ne named' differs.symm).trans (unnoticed.symm.after earlier)).buckets
    · have unnoticed : AgreesOn asked (registry.after earlier) registry :=
        agreesOn_after_of_ne named own
      exact ((unnoticed.after later).trans (agreesOn_after_of_ne named own).symm).buckets

theorem reply_after_of_ne (registry : Registry) (named : earlier.key? = some key)
    (named' : later.key? = some other) (differs : key ≠ other) :
    (registry.after earlier).reply later = registry.reply later := by
  refine (agreesOn_after_of_ne named differs).reply ?_
  rw [Event.concerns, named', Option.all_some, beq_self_eq_true]

/-- The order of two events on different keys is told by nothing but itself. -/
private theorem transcript_comm (registry : Registry) (rest : List Event)
    (named : earlier.key? = some key) (named' : later.key? = some other) (differs : key ≠ other) :
    ∃ one two told,
      registry.transcript (earlier :: later :: rest) = (earlier, one) :: (later, two) :: told ∧
      registry.transcript (later :: earlier :: rest) = (later, two) :: (earlier, one) :: told := by
  refine ⟨_, _, _, rfl, ?_⟩
  rw [transcript, transcript, after_comm registry named named' differs,
    reply_after_of_ne registry named named' differs,
    reply_after_of_ne registry named' named differs.symm]

end

/-- In a run, the hits and resets of a key are answered, and the key is live at any point, as if
those of all other keys were left out. Two of them on different keys that follow each other may
change places: they and all later events are answered as before, and the registry is the same. -/
theorem keys_do_not_interfere (registry : Registry) (events : List Event) :
    (∀ key,
      (registry.transcript events).filter (fun told => told.1.concerns key) =
        registry.transcript (events.filter (Event.concerns key)) ∧
      ∀ before, before <+: events →
        (registry.run before).contains key =
          (registry.run (before.filter (Event.concerns key))).contains key) ∧
    ∀ before earlier later rest key other, events = before ++ earlier :: later :: rest →
      earlier.key? = some key → later.key? = some other → key ≠ other →
      registry.run (before ++ later :: earlier :: rest) = registry.run events ∧
      ∃ one two told,
        registry.transcript events =
          registry.transcript before ++ (earlier, one) :: (later, two) :: told ∧
        registry.transcript (before ++ later :: earlier :: rest) =
          registry.transcript before ++ (later, two) :: (earlier, one) :: told := by
  refine ⟨fun key => ⟨?_, fun before _ => ?_⟩, ?_⟩
  · exact (AgreesOn.refl key registry).transcript_filter events
  · exact ((AgreesOn.refl key registry).run_filter before).contains
  · rintro before earlier later rest key other rfl named named' differs
    constructor
    · rw [run_append, run_append]
      exact congrArg (run · rest) (after_comm _ named' named differs.symm)
    · obtain ⟨one, two, told, first, second⟩ :=
        transcript_comm (registry.run before) rest named named' differs
      exact ⟨one, two, told, by rw [transcript_append, first], by rw [transcript_append, second]⟩

/-- One key is past its limit, is reset and hit again, which the other key does not notice; the two
hits at the start may change places. -/
theorem keys_do_not_interfere_of_two :
    let limits : Limits := ⟨.ofNanos 100, 1⟩
    let events := [Event.hit "a" limits, .hit "b" limits, .hit "a" limits, .advance 120, .reset "a",
      .hit "b" limits, .hit "a" limits, .hit "b" limits, .advance 180, .hit "b" limits]
    let swapped := Event.hit "b" limits :: .hit "a" limits :: events.drop 2
    let told := [Reply.counted false, .silent, .counted false, .counted true, .silent,
      .counted false]
    (empty.transcript (events.filter (Event.concerns "b"))).map Prod.snd = told ∧
      ((empty.transcript events).filter (fun told => told.1.concerns "b")).map Prod.snd = told ∧
      (Event.hit "a" limits).key? = some "a" ∧ (Event.hit "b" limits).key? = some "b" ∧ "a" ≠ "b" ∧
      empty.run swapped = empty.run events := by
  intro limits events swapped told
  have alone : (empty.transcript (events.filter (Event.concerns "b"))).map Prod.snd = told := by
    decide +kernel
  have differs : "a" ≠ "b" := by decide
  obtain ⟨leaves, exchanges⟩ := keys_do_not_interfere empty events
  have same := (exchanges [] _ _ _ "a" "b" rfl rfl rfl differs).1
  exact ⟨alone, by rw [(leaves "b").1]; exact alone, rfl, rfl, differs, same⟩

end LoginGate.Registry
