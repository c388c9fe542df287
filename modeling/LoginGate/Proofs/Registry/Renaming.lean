import LoginGate.Registry
import Mathlib.Data.List.Nodup
import Mathlib.Logic.Function.Basic

/-! # Keys under other names

A registry does not look into its keys. If all keys are replaced by other ones, different keys by
different ones, then it tells the same as before, and has the same buckets under the new keys.
-/

namespace LoginGate.Registry

/-- The second registry has the buckets of the first one under new keys, and no others. -/
structure Renames (rename : String → String) (first second : Registry) : Prop where
  clocks : first.now = second.now
  buckets : ∀ key, second.bucket? (rename key) = first.bucket? key
  named : ∀ key, second.contains key = true → ∃ old, rename old = key

namespace Renames

variable {rename : String → String} {first second : Registry}

theorem contains (renames : Renames rename first second) (key : String) :
    second.contains (rename key) = first.contains key := by
  rw [contains_eq, contains_eq, renames.buckets]

/-- The new registry counts a hit on the same bucket. -/
theorem bucketFor (renames : Renames rename first second) (key : String) (limits : Limits)
    (period_pos : 0 < limits.period.nanos) :
    second.bucketFor (rename key) limits period_pos = first.bucketFor key limits period_pos := by
  rw [Registry.bucketFor, Registry.bucketFor, renames.buckets, renames.clocks]

theorem empty (rename : String → String) : Renames rename empty empty where
  clocks := rfl
  buckets key := by rw [bucket?_empty, bucket?_empty]
  named key live := by
    rw [contains_eq, bucket?_empty] at live
    cases live

theorem advance (renames : Renames rename first second) (nanos : Nat) :
    Renames rename (first.advance nanos) (second.advance nanos) where
  clocks := congrArg (· + nanos) renames.clocks
  buckets key := by
    rw [bucket?_advance, bucket?_advance, renames.buckets, renames.clocks]
  named key live := by
    refine renames.named key ?_
    rw [contains_eq, bucket?_advance] at live
    rw [contains_eq]
    exact Option.isSome_of_isSome_bind live

theorem shutdown (renames : Renames rename first second) :
    Renames rename first.shutdown second.shutdown where
  clocks := renames.clocks
  buckets key := by rw [bucket?_shutdown, bucket?_shutdown]
  named key live := by
    rw [contains_eq, bucket?_shutdown] at live
    cases live

variable (injective : Function.Injective rename)
include injective

theorem hit (renames : Renames rename first second) (key : String) (limits : Limits) :
    (first.hit key limits).1 = (second.hit (rename key) limits).1 ∧
      Renames rename (first.hit key limits).2 (second.hit (rename key) limits).2 := by
  cases validated : limits.validate with
  | error fault =>
    rw [hit_of_error first key validated, hit_of_error second (rename key) validated]
    exact ⟨rfl, renames⟩
  | ok valid =>
    have usable := limits.usable_of_validate validated
    have bucket := renames.bucketFor key limits usable.period_pos
    refine ⟨?_, ?_, fun other => ?_, fun other live => ?_⟩
    · rw [hit_of_usable first key usable, hit_of_usable second (rename key) usable, bucket]
    · rw [now_hit, now_hit, renames.clocks]
    · rw [bucket?_hit second _ _ usable, bucket?_hit first _ _ usable, bucket, renames.buckets,
        renames.clocks]
      simp only [injective.eq_iff]
    · rw [contains_eq, bucket?_hit second _ _ usable] at live
      split at live
      · next same => exact ⟨key, same⟩
      · exact renames.named other (by rwa [contains_eq])

theorem reset (renames : Renames rename first second) (key : String) :
    (first.reset key).1 = (second.reset (rename key)).1 ∧
      Renames rename (first.reset key).2 (second.reset (rename key)).2 := by
  refine ⟨(renames.contains key).symm, renames.clocks, fun other => ?_, fun other live => ?_⟩
  · rw [bucket?_reset, bucket?_reset, renames.buckets]
    simp only [injective.eq_iff]
  · rw [contains_eq, bucket?_reset] at live
    split at live
    · cases live
    · exact renames.named other (by rwa [contains_eq])

theorem size (renames : Renames rename first second) : first.size = second.size := by
  have old : (first.keys.map rename).Nodup := Std.ExtTreeMap.nodup_keys.map injective
  have new : second.keys.Nodup := Std.ExtTreeMap.nodup_keys
  have live (registry : Registry) (key : String) :
      key ∈ registry.keys ↔ registry.contains key = true := Std.ExtTreeMap.mem_keys
  have same : (first.keys.map rename).Perm second.keys := by
    rw [List.perm_ext_iff_of_nodup old new]
    intro key
    rw [live, List.mem_map]
    constructor
    · rintro ⟨old, member, rfl⟩
      rw [renames.contains, ← live]
      exact member
    · intro present
      obtain ⟨old, rfl⟩ := renames.named key present
      exact ⟨old, (live first old).mpr (renames.contains old ▸ present), rfl⟩
  calc first.size = first.keys.length := Std.ExtTreeMap.length_keys.symm
    _ = (first.keys.map rename).length := (List.length_map rename).symm
    _ = second.keys.length := same.length_eq
    _ = second.size := Std.ExtTreeMap.length_keys

end Renames
end LoginGate.Registry
