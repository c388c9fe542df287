import LoginGate.Registry

/-! # The lives of buckets

The life of a bucket begins with the hit on a key that has no live bucket, and every hit on the key
belongs to it until the bucket is gone. Told in this way it holds the times of all hits, from which
counts, boundaries and expiry follow; the bucket itself keeps none of these times but the last.
-/

namespace LoginGate

/-- The life of a bucket: when and with which limits it was created, and when it was hit. -/
structure Life where
  limits : Limits
  created : Nat
  /-- The times of the hits, the last one first. -/
  hits : List Nat
  deriving DecidableEq, Repr

namespace Life

def opened (limits : Limits) (now : Nat) : Life :=
  ⟨limits, now, []⟩

def hit (life : Life) (now : Nat) : Life :=
  { life with hits := now :: life.hits }

def period (life : Life) : Nat :=
  life.limits.period.nanos

/-- The window in which a time falls, counted from the creation. -/
def window (life : Life) (time : Nat) : Nat :=
  (time - life.created) / life.period

/-- The hits in the window of a time. -/
def hitsAround (life : Life) (time : Nat) : Nat :=
  life.hits.countP fun hit => life.window hit = life.window time

def lastHit (life : Life) : Nat :=
  life.hits.headD life.created

/-- The clock reaches the end of the first window. -/
def InClock (life : Life) : Prop :=
  Bucket.isBeyondClock (life.created + life.period) = false

instance (life : Life) : Decidable life.InClock :=
  inferInstanceAs (Decidable (_ = _))

/-- The life of a bucket that was hit, up to some time: it has windows, and its last hit lies
between its creation and that time. -/
structure Sound (life : Life) (now : Nat) : Prop where
  period_pos : 0 < life.period
  created_le : life.created ≤ life.lastHit
  lastHit_le : life.lastHit ≤ now

/-- Up to a time there is a boundary at which the last hit lies two periods back. -/
def Expired (life : Life) (time : Nat) : Prop :=
  ∃ j, 1 ≤ j ∧ life.lastHit + 2 * life.period ≤ life.created + j * life.period ∧
    life.created + j * life.period ≤ time

end Life

namespace Registry

/-- The life that a hit continues: the one of the live bucket, or a new one with the given
limits. -/
def lifeFor (registry : Registry) (key : String) (limits : Limits) (life : Option Life) : Life :=
  (if registry.contains key then life else none).getD (.opened limits registry.now)

/-- The life of a key's bucket after an event. A bucket that is removed by a caller has no life any
more, while one that expired keeps the life it had. -/
def lifeAfter (key : String) (registry : Registry) (life : Option Life) : Event → Option Life
  | .hit other limits =>
    if other = key ∧ limits.Usable then
      some ((registry.lifeFor key limits life).hit registry.now)
    else life
  | .advance _ => life
  | .reset other => if other = key then none else life
  | .shutdown => none

/-- The life after the events of a run. -/
def lifeAlong (key : String) : List Event → Registry → Option Life → Option Life
  | [], _, life => life
  | event :: rest, registry, life =>
    lifeAlong key rest (registry.after event) (registry.lifeAfter key life event)

/-- The life to which the last hit on a key belongs in a run that begins without buckets, unless
the key was reset since. -/
def life (key : String) (events : List Event) : Option Life :=
  lifeAlong key events empty none

theorem lifeAlong_append (key : String) (first second : List Event) (registry : Registry)
    (life : Option Life) :
    lifeAlong key (first ++ second) registry life =
      lifeAlong key second (registry.run first) (lifeAlong key first registry life) := by
  induction first generalizing registry life with
  | nil => rfl
  | cons event rest ih => exact ih _ _

/-- What every event preserves holds along a run. -/
theorem lifeAlong_preserves (key : String) (holds : Registry → Option Life → Prop)
    (step : ∀ registry life event, holds registry life →
      holds (registry.after event) (registry.lifeAfter key life event))
    {registry : Registry} {life : Option Life} (start : holds registry life)
    (events : List Event) : holds (registry.run events) (lifeAlong key events registry life) := by
  induction events generalizing registry life with
  | nil => exact start
  | cons event rest ih => exact ih (step registry life event start)

private theorem sound_lifeAfter {key : String} {registry : Registry} {life : Option Life}
    (event : Event) (before : ∀ known ∈ life, known.Sound registry.now) :
    ∀ known ∈ registry.lifeAfter key life event, known.Sound (registry.after event).now := by
  have kept : ∀ known ∈ life, known.Sound (registry.after event).now := fun known told =>
    { before known told with
      lastHit_le := Nat.le_trans (before known told).lastHit_le (now_le_after registry event) }
  intro known told
  cases event with
  | hit other limits =>
    simp only [lifeAfter] at told
    split at told
    · next own =>
      obtain rfl := Option.some.inj told
      rw [after, now_hit]
      have begun : (Life.opened limits registry.now).Sound registry.now :=
        ⟨own.2.period_pos, Nat.le_refl _, Nat.le_refl _⟩
      have continued : (registry.lifeFor key limits life).Sound registry.now := by
        rw [lifeFor]
        split
        · cases known : life with
          | none => exact begun
          | some earlier => exact before earlier known
        · exact begun
      exact ⟨continued.period_pos, Nat.le_trans continued.created_le continued.lastHit_le,
        Nat.le_refl _⟩
    · exact kept known told
  | advance nanos => exact kept known told
  | reset other =>
    simp only [lifeAfter] at told
    split at told
    · cases told
    · exact kept known told
  | shutdown => cases told

/-- The life that a run tells is one of a bucket that was hit. -/
theorem sound_life {key : String} {events : List Event} {known : Life}
    (told : life key events = some known) : known.Sound (empty.run events).now := by
  have start : ∀ known ∈ (none : Option Life), known.Sound empty.now := by
    intro known impossible
    cases impossible
  exact lifeAlong_preserves key (fun registry life => ∀ known ∈ life, known.Sound registry.now)
    (fun _ _ event before => sound_lifeAfter event before) start events known told

theorem life_hit (key : String) (events : List Event) {limits : Limits} (usable : limits.Usable) :
    life key (events ++ [.hit key limits]) =
      some (((empty.run events).lifeFor key limits (life key events)).hit
        (empty.run events).now) := by
  rw [life, lifeAlong_append]
  simp only [lifeAlong, lifeAfter, usable, and_self, if_true, life]

private theorem length_hits_lifeAfter {key : String} {registry : Registry} {life : Option Life}
    {event : Event} {bound : Nat} (before : ∀ known, life = some known → known.hits.length ≤ bound)
    {known : Life} (after : registry.lifeAfter key life event = some known) :
    known.hits.length ≤ bound + if event.counts then 1 else 0 := by
  cases event with
  | hit other limits =>
    simp only [lifeAfter] at after
    split at after
    · next own =>
      cases after
      have continued : (registry.lifeFor key limits life).hits.length ≤ bound := by
        rw [lifeFor]
        split
        · cases known : life with
          | none => exact Nat.zero_le _
          | some known' => exact before known' known
        · exact Nat.zero_le _
      simpa [Life.hit, Event.counts, own.2] using continued
    · exact Nat.le_trans (before known after) (Nat.le_add_right _ _)
  | advance nanos => exact before known after
  | reset other =>
    simp only [lifeAfter] at after
    split at after
    · cases after
    · exact before known after
  | shutdown => cases after

private theorem length_hits_lifeAlong {key : String} {events : List Event} {registry : Registry}
    {life : Option Life} {bound : Nat}
    (before : ∀ known, life = some known → known.hits.length ≤ bound) {known : Life}
    (after : lifeAlong key events registry life = some known) :
    known.hits.length ≤ bound + countedHits events := by
  induction events generalizing registry life bound with
  | nil => exact before known after
  | cons event rest ih =>
    have step := ih (fun known => length_hits_lifeAfter before) after
    rw [countedHits, List.countP_cons]
    rw [countedHits] at step
    omega

/-- A life holds no more hits than the run counts. -/
theorem length_hits_le {key : String} {events : List Event} {known : Life}
    (present : life key events = some known) : known.hits.length ≤ countedHits events := by
  have start : ∀ known, (none : Option Life) = some known → known.hits.length ≤ 0 := by
    intro known impossible
    cases impossible
  have bound := length_hits_lifeAlong start present
  omega

end Registry
end LoginGate
