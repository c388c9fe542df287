import LoginGate.Proofs.Address.RoundTrip
import LoginGate.Proofs.Gate.Decision

/-! # What the lists decide

The lists speak before the limits do. From what a judgement leaves behind one can tell whether they
did: only the deny list gives the reason `rule`, and only the allow list admits an attempt without a
hit on any key.
-/

namespace LoginGate.Gate

theorem reason_outcomeFor (attempt : Attempt) (reason : Option DenyReason) :
    (outcomeFor attempt reason).reason = reason := by
  rcases reason with _ | _ | ⟨⟨⟩⟩ | _ <;> rfl

section Settled

variable {reply : Aspect → Except LimitsFault Bool} {aspects asked counted : List Aspect}
  {reason : Option DenyReason}

/-- The limits never deny for a rule. -/
theorem Settled.ne_rule (settled : Settled reply aspects asked counted reason) :
    reason ≠ some .rule := by
  cases settled <;> exact nofun

theorem Settled.asked_ne_nil (settled : Settled reply aspects asked counted reason)
    (some : aspects ≠ []) : asked ≠ [] := by
  cases settled with
  | within all => exact some
  | exceeded split before here => exact List.append_ne_nil_of_right_ne_nil _ (List.cons_ne_nil _ _)
  | failed split before here => exact List.append_ne_nil_of_right_ne_nil _ (List.cons_ne_nil _ _)

end Settled

section

variable {σ : Type} [RuleStore σ] [LawfulStore σ] {gate : Gate σ (UnreliableLimiter Registry)}
  {attempt : Attempt} {found : List Rule}

/-- The reason that names the lists is given when a deny rule covers the address and no allow rule
does. -/
theorem reason_eq_rule_iff (looked : gate.lookup attempt.address = .ok found) :
    (gate.check attempt).1.reason = some .rule ↔
      ¬ gate.Lists .allow attempt.address ∧ gate.Lists .deny attempt.address := by
  by_cases allowed : gate.Lists .allow attempt.address
  · rw [(decides_of_allow looked allowed).check_eq, reason_outcomeFor]
    exact iff_of_false nofun fun denied => denied.1 allowed
  · by_cases denied : gate.Lists .deny attempt.address
    · rw [(decides_of_deny looked allowed denied).check_eq, reason_outcomeFor]
      exact iff_of_true rfl ⟨allowed, denied⟩
    · obtain ⟨asked, counted, reason, settled, decides⟩ :=
        decides_of_unlisted looked allowed denied
      rw [decides.check_eq, reason_outcomeFor]
      exact iff_of_false settled.ne_rule fun listed => denied listed.2

/-- An attempt is admitted without a hit when an allow rule covers the address. -/
theorem admitted_without_hit_iff (looked : gate.lookup attempt.address = .ok found) :
    ((gate.check attempt).1.admitted = true ∧
      (gate.check attempt).2.limiter.hits = gate.limiter.hits) ↔
        gate.Lists .allow attempt.address := by
  by_cases allowed : gate.Lists .allow attempt.address
  · rw [(decides_of_allow looked allowed).check_eq]
    exact iff_of_true ⟨rfl, rfl⟩ allowed
  · refine iff_of_false ?_ allowed
    rintro ⟨admitted, hits⟩
    by_cases denied : gate.Lists .deny attempt.address
    · rw [(decides_of_deny looked allowed denied).check_eq] at admitted
      cases admitted
    · obtain ⟨asked, counted, reason, settled, decides⟩ :=
        decides_of_unlisted looked allowed denied
      have some := List.length_pos_iff.mpr (settled.asked_ne_nil (by decide))
      rw [decides.check_eq] at hits
      exact absurd hits (Nat.ne_of_gt (Nat.lt_add_of_pos_right some))

end

/-- A single rule lists the addresses that it covers, under its verdict. -/
theorem lists_iff_of_singleton {β : Type} {gate : Gate MemoryStore β} {rule : Rule}
    (only : gate.store.rules = [rule]) (verdict : Verdict) (address : Address) :
    gate.Lists verdict address ↔ rule.verdict = verdict ∧ rule.network.covers address = true := by
  simp only [Lists, LawfulStore.rules, only, List.mem_singleton, exists_eq_left]

/-- A gate that nobody has come to yet, with one listing. -/
def listingOnly (listing : Listing) : Gate MemoryStore (UnreliableLimiter Registry) where
  store := (MemoryStore.empty ⟨0, 0⟩ RuleId.ofNat).add listing
  limiter := .reliable .empty
  window := ⟨100, by decide, by decide⟩
  limits := {}

/-! ## Addresses as values and as texts

An attempt comes with its address as a value or as a text. A text is judged by the canonical form of
the address that it denotes, a value as it is. Both ways agree for the addresses that are canonical
and for no others.
-/

/-- What comes of a judgement that takes place. -/
def judged {σ β : Type} (result : Outcome × Gate σ β) : Except GateFault Outcome × Gate σ β :=
  (.ok result.1, result.2)

theorem checkText_of_parse {σ β : Type} [RuleStore σ] [Limiter β] (gate : Gate σ β)
    (login password : String) {text : String} {address : Address}
    (read : Address.parse text = .ok address) :
    gate.checkText login password text = judged (gate.check ⟨login, password, address⟩) := by
  rw [checkText, read]
  rfl

/-- A gate that denies one address denies no other, and not that one in another form. -/
private theorem reason_listingOnly_iff (named address : Address) (login password : String) :
    ((listingOnly ⟨.deny, .single named⟩).check ⟨login, password, address⟩).1.reason = some .rule ↔
      named = address := by
  have only : (listingOnly ⟨.deny, .single named⟩).store.rules =
      [(MemoryStore.empty ⟨0, 0⟩ RuleId.ofNat).stamped ⟨.deny, .single named⟩] := rfl
  have lists (verdict : Verdict) : (listingOnly ⟨.deny, .single named⟩).Lists verdict address ↔
      .deny = verdict ∧ (Network.single named).covers address = true :=
    lists_iff_of_singleton only verdict address
  rw [reason_eq_rule_iff rfl, lists, lists, ← Network.covers_single_iff]
  exact ⟨fun ⟨_, denied⟩ => denied.2, fun covers => ⟨(nomatch ·.1), rfl, covers⟩⟩

/-- Judging the text of an address is judging its canonical form, whatever the store and the limiter
are. This is the same as judging the address itself exactly when the address is not a mapped one. -/
theorem checkText_toString_eq_iff (address : Address) :
    (∀ {σ β : Type} [RuleStore σ] [Limiter β] (gate : Gate σ β) (login password : String),
      gate.checkText login password (toString address) =
        judged (gate.check ⟨login, password, address.canonical⟩)) ∧
    ((∀ {σ β : Type} [RuleStore σ] [Limiter β] (gate : Gate σ β) (login password : String),
      gate.checkText login password (toString address) =
        judged (gate.check ⟨login, password, address⟩)) ↔ address.isMapped = false) := by
  have canonical {σ β : Type} [RuleStore σ] [Limiter β] (gate : Gate σ β)
      (login password : String) := checkText_of_parse gate login password address.parse_toString
  refine ⟨canonical, fun agree => ?_, fun plain σ β _ _ gate login password => ?_⟩
  · -- A gate that denies the address as it is listed tells it from its canonical form.
    let gate := listingOnly ⟨.deny, .single address⟩
    have same := (canonical gate "" "").symm.trans (agree gate "" "")
    have reasons := congrArg Outcome.reason (Except.ok.inj (Prod.mk.inj same).1)
    have denied := (reason_listingOnly_iff address address "" "").mpr rfl
    have unchanged := (reason_listingOnly_iff address address.canonical "" "").mp
      (reasons.trans denied)
    rw [unchanged]
    exact address.isMapped_canonical
  · rw [canonical, Address.canonical, if_neg (by simp [plain])]

/-- An address that is denied when it is given as text is admitted when it is given as a mapped
value. -/
theorem checkText_ne_check_mapped :
    let gate := listingOnly ⟨.deny, ⟨⟨.v4, 0x0A00_0000, by decide⟩, 8, by decide⟩⟩
    let mapped : Address := ⟨.v6, 0xFFFF_0A00_0001, by decide⟩
    (gate.checkText "root" "guess" (toString mapped)).1 =
        .ok (.deny .rule "address 10.0.0.1 is on the deny list") ∧
      (gate.check ⟨"root", "guess", mapped⟩).1 = .grant := by
  decide +kernel

end LoginGate.Gate
