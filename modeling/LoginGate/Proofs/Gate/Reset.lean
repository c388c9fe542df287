import LoginGate.Proofs.Gate.Lists
import LoginGate.Proofs.Gate.Run

/-! # What a reset forgets

A reset names a login or an address and forgets the hits on it. It removes the very bucket that
checks count on, however the address was spelled in either place, and no other: keys of different
aspects or values differ, and different addresses have different texts.
-/

namespace LoginGate

/-- A hit always shows. -/
theorem Bucket.hit_ne (bucket : Bucket) (now : Nat) : bucket.hit now ≠ bucket := by
  intro same
  have counts : (bucket.count + 1) % wordSize = bucket.count := congrArg Bucket.count same
  simp only [wordSize, UInt64.size] at counts
  omega

theorem Aspect.ofName?_eq_some_iff {name : String} {aspect : Aspect} :
    ofName? name = some aspect ↔ name = aspect.name := by
  constructor
  · intro found
    have named := List.find?_some found
    exact (beq_iff_eq.mp named).symm
  · rintro rfl
    exact ofName?_name aspect

namespace ResetRequest

variable {request : ResetRequest}

theorem aspect_eq_ok_iff {aspect : Aspect} :
    request.aspect = .ok aspect ↔ request.parameter = aspect.name ∧ aspect ≠ .password := by
  rw [ResetRequest.aspect, ← Aspect.ofName?_eq_some_iff]
  constructor
  · intro read
    split at read
    · next found =>
      obtain rfl := Except.ok.inj read
      exact (Option.filter_eq_some_iff.mp found).imp_right of_decide_eq_true
    · cases read
  · rintro ⟨named, allowed⟩
    rw [named, Option.filter_some, if_pos (decide_eq_true allowed)]

/-- A login is reset under its own key, an address under the key of its canonical form. -/
theorem key_eq_ok_iff {key : String} :
    request.key = .ok key ↔
      request.parameter = "login" ∧ key = Aspect.login.key request.value ∨
      request.parameter = "ip" ∧ ∃ address, Address.parse request.value = .ok address ∧
        key = Aspect.address.key (toString address) := by
  constructor
  · intro read
    rw [ResetRequest.key] at read
    cases found : request.aspect with
    | error fault =>
      rw [found] at read
      cases read
    | ok aspect =>
      obtain ⟨named, allowed⟩ := aspect_eq_ok_iff.mp found
      rw [found] at read
      cases aspect with
      | login => exact .inl ⟨named, (Except.ok.inj read).symm⟩
      | password => exact absurd rfl allowed
      | address =>
        cases parsed : Address.parse request.value with
        | error fault =>
          simp only [parsed, bind, Except.bind] at read
          cases read
        | ok address =>
          simp only [parsed, bind, Except.bind] at read
          exact .inr ⟨named, address, rfl, (Except.ok.inj read).symm⟩
  · rintro (⟨named, rfl⟩ | ⟨named, address, parsed, rfl⟩)
    · have found : request.aspect = .ok .login := aspect_eq_ok_iff.mpr ⟨named, by decide⟩
      rw [ResetRequest.key, found]
      rfl
    · have found : request.aspect = .ok .address := aspect_eq_ok_iff.mpr ⟨named, by decide⟩
      simp only [ResetRequest.key, found, parsed, bind, Except.bind]

/-- No key can be read for any other parameter, nor for a text that is no address. -/
theorem key_ne_ok_iff :
    (∀ key, request.key ≠ .ok key) ↔
      request.parameter ≠ "login" ∧ request.parameter ≠ "ip" ∨
      request.parameter = "ip" ∧ ∃ fault, Address.parse request.value = .error fault := by
  constructor
  · intro unread
    by_cases login : request.parameter = "login"
    · exact absurd (key_eq_ok_iff.mpr (.inl ⟨login, rfl⟩)) (unread _)
    · by_cases ip : request.parameter = "ip"
      · cases parsed : Address.parse request.value with
        | error fault => exact .inr ⟨ip, fault, rfl⟩
        | ok address =>
          exact absurd (key_eq_ok_iff.mpr (.inr ⟨ip, address, parsed, rfl⟩)) (unread _)
      · exact .inl ⟨login, ip⟩
  · intro refused key read
    rcases key_eq_ok_iff.mp read with ⟨login, -⟩ | ⟨ip, address, parsed, -⟩
    · rcases refused with ⟨other, -⟩ | ⟨ip, -⟩
      · exact other login
      · exact absurd (login.symm.trans ip) (by decide)
    · rcases refused with ⟨-, other⟩ | ⟨-, fault, failed⟩
      · exact other ip
      · cases failed.symm.trans parsed

/-- What is wrong with a request without a key: its parameter, or the text of its address. -/
theorem key_eq_error {error : InputError} (unread : request.key = .error error) :
    request.parameter ≠ "login" ∧ request.parameter ≠ "ip" ∧
        error = .unknownResetParameter request.parameter ∨
      request.parameter = "ip" ∧ Address.parse request.value = .error error := by
  have refused : ∀ key, request.key ≠ .ok key := fun key read => by cases unread.symm.trans read
  rcases key_ne_ok_iff.mp refused with ⟨login, ip⟩ | ⟨ip, fault, failed⟩
  · refine .inl ⟨login, ip, ?_⟩
    cases named : request.aspect with
    | ok aspect =>
      obtain ⟨name, allowed⟩ := aspect_eq_ok_iff.mp named
      cases aspect with
      | login => exact absurd name login
      | password => exact absurd rfl allowed
      | address => exact absurd name ip
    | error fault =>
      rw [ResetRequest.key, named] at unread
      obtain rfl := Except.error.inj unread
      rw [aspect] at named
      split at named
      · cases named
      · exact (Except.error.inj named).symm
  · have named : request.aspect = .ok .address := aspect_eq_ok_iff.mpr ⟨ip, by decide⟩
    simp only [ResetRequest.key, named, failed, bind, Except.bind] at unread
    obtain rfl := Except.error.inj unread
    exact .inr ⟨ip, failed⟩

/-- The key is one of the aspect that is named, and never one of a password. -/
theorem key_ne_of_spared {key : String} (read : request.key = .ok key) {aspect : Aspect}
    (spared : aspect = .password ∨ aspect.name ≠ request.parameter) (value : String) :
    aspect.key value ≠ key := by
  rintro rfl
  rcases key_eq_ok_iff.mp read with ⟨named, same⟩ | ⟨named, address, -, same⟩
  all_goals
    obtain ⟨rfl, -⟩ := Aspect.key_inj.mp same
    rw [named] at spared
    revert spared
    decide

end ResetRequest

namespace Gate

/-! ## What a check counts on -/

section

variable {σ : Type} [RuleStore σ]

/-- A check of these texts counts on a key: its bucket does not stay as it is. -/
def CountsOn (gate : Gate σ (UnreliableLimiter Registry)) (login password address key : String) :
    Prop :=
  (gate.checkText login password address).2.registry.bucket? key ≠ gate.registry.bucket? key

instance (gate : Gate σ (UnreliableLimiter Registry)) (login password address key : String) :
    Decidable (gate.CountsOn login password address key) :=
  inferInstanceAs (Decidable (_ ≠ _))

variable {gate : Gate σ (UnreliableLimiter Registry)} {login password text : String}

theorem exists_aspect_of_countsOn {key : String} (counts : gate.CountsOn login password text key) :
    ∃ address aspect, Address.parse text = .ok address ∧
      key = Attempt.key ⟨login, password, address⟩ aspect := by
  rw [CountsOn] at counts
  cases read : Address.parse text with
  | error fault =>
    simp only [checkText, read, ne_eq, not_true_eq_false] at counts
  | ok address =>
    obtain ⟨_, counted, _, decides, -⟩ := gate.exists_decides ⟨login, password, address⟩
    by_contra! other
    rw [checkText_of_parse gate login password read, decides.check_eq] at counts
    exact counts (bucket?_countAll_of_ne fun aspect _ same => other address aspect rfl same.symm)

/-- A check counts on no other value of an aspect than its own. -/
theorem eq_value_of_countsOn {aspect : Aspect} {value : String}
    (counts : gate.CountsOn login password text (aspect.key value)) :
    ∃ address, Address.parse text = .ok address ∧
      value = Attempt.value ⟨login, password, address⟩ aspect := by
  obtain ⟨address, counted, read, same⟩ := exists_aspect_of_countsOn counts
  obtain ⟨rfl, values⟩ := Aspect.key_inj.mp same
  exact ⟨address, read, values⟩

theorem countsOn_login_iff {named : String}
    (reaches : ∃ value, gate.CountsOn login password text (Aspect.login.key value)) :
    gate.CountsOn login password text (Aspect.login.key named) ↔ login = named := by
  constructor
  · intro counts
    obtain ⟨_, -, same⟩ := eq_value_of_countsOn counts
    exact same.symm
  · rintro rfl
    obtain ⟨value, counts⟩ := reaches
    obtain ⟨_, -, rfl⟩ := eq_value_of_countsOn counts
    exact counts

/-- A check that counts on some address counts on the one that its text denotes. -/
theorem countsOn_address_iff {spelled : String} {named : Address}
    (parsed : Address.parse spelled = .ok named)
    (reaches : ∃ value, gate.CountsOn login password text (Aspect.address.key value)) :
    gate.CountsOn login password text (Aspect.address.key (toString named)) ↔
      Address.parse text = Address.parse spelled := by
  rw [parsed]
  constructor
  · intro counts
    obtain ⟨address, read, same⟩ := eq_value_of_countsOn counts
    rw [read, Address.toString_inj.mp same]
  · intro read
    obtain ⟨value, counts⟩ := reaches
    obtain ⟨address, read', rfl⟩ := eq_value_of_countsOn counts
    obtain rfl : address = named := Except.ok.inj (read'.symm.trans read)
    exact counts

/-- An attempt that the limits admit counts on the keys of all its values. -/
theorem countsOn_of_admits [LawfulStore σ] {address : Address}
    (read : Address.parse text = .ok address)
    (admits : gate.Admits ⟨login, password, address⟩) (aspect : Aspect) :
    gate.CountsOn login password text (Attempt.key ⟨login, password, address⟩ aspect) := by
  obtain ⟨settled, decides⟩ := admits.decides
  have member : aspect ∈ Aspect.all := by cases aspect <;> decide
  have counts := settled.bucket?_measured member
  rw [CountsOn, checkText_of_parse gate login password read, decides.check_eq]
  refine counts.trans_ne ?_
  rw [Registry.bucketFor, registry]
  cases gate.limiter.inner.bucket? _ with
  | none => exact Option.some_ne_none _
  | some bucket => exact fun same => bucket.hit_ne _ (Option.some.inj same)

end

/-! ## What is forgotten -/

section

variable {σ : Type} {gate : Gate σ (UnreliableLimiter Registry)} {request : ResetRequest}

/-- A reset tells whether the bucket of a key was live, removes it, and leaves the others alone. -/
structure Forgets (gate : Gate σ (UnreliableLimiter Registry)) (request : ResetRequest)
    (key : String) : Prop where
  answer : (gate.reset request).1 = .ok (gate.registry.bucket? key).isSome
  gone : (gate.reset request).2.registry.bucket? key = none
  kept : ∀ other, other ≠ key →
    (gate.reset request).2.registry.bucket? other = gate.registry.bucket? other

theorem reset_of_error {fault : InputError} (unread : request.key = .error fault) :
    gate.reset request = (.error (.input fault), gate) := by
  rw [reset, unread]

theorem reset_of_ok {key : String} (read : request.key = .ok key) :
    gate.reset request = (.ok (gate.registry.contains key),
      gate.onRegistry fun registry => (registry.reset key).2) := by
  rw [reset, read]
  rfl

theorem forgets_of_key {key : String} (read : request.key = .ok key) :
    gate.Forgets request key where
  answer := by rw [reset_of_ok read, Registry.contains_eq]
  gone := by
    rw [reset_of_ok read]
    exact (Registry.bucket?_reset gate.registry key key).trans (if_pos rfl)
  kept other differs := by
    rw [reset_of_ok read]
    exact (Registry.bucket?_reset gate.registry key other).trans (if_neg differs.symm)

theorem reset_eq_error_iff :
    (∃ fault, gate.reset request = (.error fault, gate)) ↔ ∀ key, request.key ≠ .ok key := by
  cases read : request.key with
  | error fault =>
    rw [reset_of_error read]
    exact iff_of_true ⟨_, rfl⟩ fun key => nofun
  | ok key =>
    rw [reset_of_ok read]
    refine iff_of_false ?_ fun none => none key rfl
    rintro ⟨fault, same⟩
    cases (Prod.mk.inj same).1

end

/-- A reset fails and changes nothing exactly when it names neither a login nor an address. Any
other reset forgets one bucket: for a login that of the same login, for an address that of every
check whose address, however it is spelled, has the same canonical form. The buckets of passwords
and of the aspect that is not named stay. Checks that the limits admit count on all three aspects,
so there are such buckets. -/
theorem reset_forgets_counted {σ : Type} [RuleStore σ] [LawfulStore σ]
    (gate : Gate σ (UnreliableLimiter Registry)) (request : ResetRequest) :
    let refused := request.parameter ≠ "login" ∧ request.parameter ≠ "ip" ∨
      request.parameter = "ip" ∧ ∃ fault, Address.parse request.value = .error fault
    ((∃ fault, gate.reset request = (.error fault, gate)) ↔ refused) ∧
    (¬ refused → ∃ key, request.key = .ok key ∧ gate.Forgets request key ∧
      ∀ (other : Gate σ (UnreliableLimiter Registry)) (login password text : String),
        (request.parameter = "login" →
          (∃ value, other.CountsOn login password text (Aspect.login.key value)) →
            (other.CountsOn login password text key ↔ login = request.value)) ∧
        (request.parameter = "ip" →
          (∃ value, other.CountsOn login password text (Aspect.address.key value)) →
            (other.CountsOn login password text key ↔
              Address.parse text = Address.parse request.value))) ∧
    (∀ (aspect : Aspect) (value : String),
      aspect = .password ∨ aspect.name ≠ request.parameter →
        (gate.reset request).2.registry.bucket? (aspect.key value) =
          gate.registry.bucket? (aspect.key value)) ∧
    ∀ (other : Gate σ (UnreliableLimiter Registry)) (login password text : String)
      (address : Address), Address.parse text = .ok address →
        other.Admits ⟨login, password, address⟩ →
          ∀ aspect, ∃ value, other.CountsOn login password text (Aspect.key aspect value) := by
  intro refused
  have unread : (∀ key, request.key ≠ .ok key) ↔ refused := ResetRequest.key_ne_ok_iff
  refine ⟨reset_eq_error_iff.trans unread, fun accepted => ?_, fun aspect value spared => ?_,
    fun other login password text address parsed admits aspect =>
      ⟨_, countsOn_of_admits parsed admits aspect⟩⟩
  · obtain ⟨key, read⟩ := not_forall_not.mp (unread.not.mpr accepted)
    refine ⟨key, read, forgets_of_key read, fun other login password text => ⟨?_, ?_⟩⟩
    · intro named reaches
      rcases ResetRequest.key_eq_ok_iff.mp read with ⟨-, rfl⟩ | ⟨ip, -⟩
      · exact countsOn_login_iff reaches
      · exact absurd (named.symm.trans ip) (by decide)
    · intro named reaches
      rcases ResetRequest.key_eq_ok_iff.mp read with ⟨login, -⟩ | ⟨-, address, parsed, rfl⟩
      · exact absurd (named.symm.trans login) (by decide)
      · exact countsOn_address_iff parsed reaches
  · cases read : request.key with
    | error fault => rw [reset_of_error read]
    | ok key => exact (forgets_of_key read).kept _ (ResetRequest.key_ne_of_spared read spared value)

/-- An address that was counted as a mapped one is forgotten under its IPv4 spelling, and the login
that was counted with it is not. -/
theorem reset_forgets_counted_respelled :
    let start := listingOnly ⟨.deny, .single ⟨.v4, 0x0B00_0000, by decide⟩⟩
    let gate := (start.checkText "root" "guess" "::FFFF:a00:1").2
    let request : ResetRequest := ⟨"ip", "10.0.0.1"⟩
    start.CountsOn "root" "guess" "::FFFF:a00:1" "ip_10.0.0.1" ∧
      (gate.reset request).1 = .ok true ∧
      (gate.reset request).2.registry.bucket? "ip_10.0.0.1" = none ∧
      (gate.reset request).2.registry.bucket? "login_root" =
        gate.registry.bucket? "login_root" ∧
      gate.registry.bucket? "login_root" ≠ none := by
  intro start gate request
  obtain ⟨-, forgets, spares, reaches⟩ := reset_forgets_counted gate request
  have parsed : Address.parse request.value = .ok ⟨.v4, 0x0A00_0001, by decide⟩ := by
    decide +kernel
  obtain ⟨key, read, forgets, counts⟩ := forgets <| by
    rintro (⟨-, other⟩ | ⟨-, fault, failed⟩)
    · exact other rfl
    · cases failed.symm.trans parsed
  obtain rfl : key = "ip_10.0.0.1" := Except.ok.inj (read.symm.trans (by decide +kernel))
  have same := (counts start "root" "guess" "::FFFF:a00:1").2 rfl
    (reaches start "root" "guess" "::FFFF:a00:1" ⟨.v4, 0x0A00_0001, by decide⟩ (by decide +kernel)
      (by decide +kernel) .address)
  have live : (gate.registry.bucket? "ip_10.0.0.1").isSome = true := by decide +kernel
  exact ⟨same.mpr (by decide +kernel), live ▸ forgets.answer, forgets.gone,
    spares .login "root" (.inr (by decide)), by decide +kernel⟩

end Gate
end LoginGate
