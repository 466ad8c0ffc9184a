import CacheService.TextStore.Step

/-!
# When a stamp is still good

Versions are handed out in order and never again, and clearings are counted. So a stamp that was
taken before a key was dropped is never the stamp of the key again (`Stamp.Old.stamp_apply`), even
though a clearing sets versions back to zero.
-/

namespace CacheService

open FastTier (Drop)

namespace Memory

/-- No key has a version that was not handed out. -/
def Numbered (m : Memory) : Prop :=
  ∀ key : TextKey, ∀ version, m.versions[key]? = some version → version ≤ m.lastVersion

/-- A stamp that may have been taken now or earlier. -/
def Stamp.Old (stamp : Stamp) (m : Memory) : Prop :=
  stamp.version ≤ m.lastVersion ∧ stamp.clearings ≤ m.clearings

theorem numbered_empty : Numbered {} := by
  intro key version h
  simp at h

theorem version_stamp (m : Memory) (key : TextKey) :
    (m.stamp key).version = (m.versions[key]?).getD 0 := by
  simp [stamp, Std.ExtTreeMap.getD_eq_getD_getElem?]

/-- The stamp that a key has now is not from the future. -/
theorem Numbered.old_stamp {m : Memory} (hm : m.Numbered) (key : TextKey) :
    (m.stamp key).Old m := by
  refine ⟨?_, Nat.le_refl _⟩
  rw [version_stamp]
  cases h : m.versions[key]? with
  | none =>
    -- a key without a version has zero in its stamp
    exact Nat.zero_le _
  | some version => exact hm key version h

/-! ## Dropping copies -/

variable {m : Memory} {stamp : Stamp}

theorem entries_invalidate (m : Memory) (key k : TextKey) :
    (m.invalidate key).entries[k]? = if key = k then none else m.entries[k]? := by
  simp [invalidate, Std.ExtTreeMap.getElem?_erase]

theorem versions_invalidate (m : Memory) (key k : TextKey) :
    (m.invalidate key).versions[k]? =
      if key = k then some (m.lastVersion + 1) else m.versions[k]? := by
  simp [invalidate, Std.ExtTreeMap.getElem?_insert]

theorem entries_clearWhere (m : Memory) (covers : TextKey → Bool) (k : TextKey) :
    (m.clearWhere covers).entries[k]? = if covers k then none else m.entries[k]? := by
  cases hc : covers k <;> cases he : m.entries[k]? <;>
    simp [clearWhere, hc, he]

theorem versions_clearWhere (m : Memory) (covers : TextKey → Bool) (k : TextKey) :
    (m.clearWhere covers).versions[k]? = if covers k then none else m.versions[k]? := by
  cases hc : covers k <;> cases he : m.versions[k]? <;>
    simp [clearWhere, hc, he]

/-- Exactly the covered copies are dropped. -/
theorem entries_apply (m : Memory) (drop : Drop) (k : TextKey) :
    (drop.apply m).entries[k]? = if drop.covers k then none else m.entries[k]? := by
  cases drop with
  | key key => simp [Drop.apply, Drop.covers, entries_invalidate]
  | textType textType => simp [Drop.apply, Drop.covers, entries_clearWhere]
  | all => simp [Drop.apply, Drop.covers, entries_clearWhere]

/-- Clearing hands out no version. -/
theorem Numbered.clearWhere (hm : m.Numbered) (covers : TextKey → Bool) :
    (m.clearWhere covers).Numbered := by
  intro k version h
  rw [versions_clearWhere] at h
  split at h
  · cases h
  · exact hm k version h

theorem Numbered.apply (hm : m.Numbered) (drop : Drop) : (drop.apply m).Numbered := by
  cases drop with
  | key key =>
    intro k version h
    rw [Drop.apply, versions_invalidate] at h
    split at h
    · exact Nat.le_of_eq (Option.some.inj h).symm
    · exact Nat.le_succ_of_le (hm k version h)
  | textType textType => exact hm.clearWhere _
  | all => exact hm.clearWhere _

/-- A stamp of the past stays one, whatever is dropped. -/
theorem Stamp.Old.apply (h : stamp.Old m) (drop : Drop) : stamp.Old (drop.apply m) := by
  obtain ⟨hversion, hclearings⟩ := h
  cases drop with
  | key key => exact ⟨Nat.le_succ_of_le hversion, hclearings⟩
  | textType textType => exact ⟨hversion, Nat.le_succ_of_le hclearings⟩
  | all => exact ⟨hversion, Nat.le_succ_of_le hclearings⟩

/-- After a clearing no stamp from before is good, whether or not its key was cleared. -/
theorem Stamp.Old.stamp_clearWhere_ne (h : stamp.Old m) (covers : TextKey → Bool) (k : TextKey) :
    (m.clearWhere covers).stamp k ≠ stamp := by
  intro hsame
  have hclearings : m.clearings + 1 = stamp.clearings := congrArg Stamp.clearings hsame
  have := h.2
  omega

/-- A stamp from before that is still good is the stamp of a key that was not dropped. -/
theorem Stamp.Old.stamp_apply (h : stamp.Old m) {drop : Drop} {k : TextKey}
    (hsame : (drop.apply m).stamp k = stamp) : drop.covers k = false ∧ m.stamp k = stamp := by
  cases drop with
  | key key =>
    -- dropping one key changes no stamp but that of the key
    have hversion : stamp.version = ((m.invalidate key).versions[k]?).getD 0 := by
      rw [← version_stamp, ← hsame, Drop.apply]
    rw [versions_invalidate] at hversion
    by_cases hk : key = k
    · -- the key has a version now that no stamp from before can have
      have := h.1
      simp only [hk, if_true, Option.getD_some] at hversion
      omega
    · refine ⟨by simpa [Drop.covers] using hk, ?_⟩
      rw [if_neg hk, ← version_stamp] at hversion
      have hclearings : m.clearings = stamp.clearings := congrArg Stamp.clearings hsame
      rcases stamp with ⟨version, clearings⟩
      simp only [stamp, Stamp.mk.injEq]
      exact ⟨hversion.symm, hclearings⟩
  -- a clearing may reset versions, but it counts
  | textType textType => exact absurd hsame (h.stamp_clearWhere_ne _ k)
  | all => exact absurd hsame (h.stamp_clearWhere_ne _ k)

/-! ## Keeping copies -/

@[simp] theorem stamp_promote (m : Memory) (key : TextKey) (text : String) (stamp : Stamp)
    (k : TextKey) : (m.promote key text stamp).stamp k = m.stamp k := by
  unfold promote
  split <;> rfl

theorem Numbered.promote (hm : m.Numbered) (key : TextKey) (text : String) (stamp : Stamp) :
    (m.promote key text stamp).Numbered := by
  unfold Memory.promote
  split
  · exact hm
  · exact hm

theorem Stamp.Old.promote (h : stamp.Old m) (key : TextKey) (text : String) (taken : Stamp) :
    stamp.Old (m.promote key text taken) := by
  unfold Memory.promote
  split
  · exact h
  · exact h

/-- A copy that is there after a promotion was there before, or was kept because its stamp is still
good. -/
theorem entries_promote {key k : TextKey} {text copy : String}
    (h : (m.promote key text stamp).entries[k]? = some copy) :
    m.entries[k]? = some copy ∨ (k = key ∧ copy = text ∧ m.stamp key = stamp) := by
  unfold promote at h
  split at h
  · rename_i hstamp
    simp only [Std.ExtTreeMap.getElem?_insert, Std.LawfulEqOrd.compare_eq_iff_eq] at h
    split at h
    · rename_i hk
      exact .inr ⟨hk.symm, (Option.some.inj h).symm, hstamp⟩
    · exact .inl h
  · exact .inl h

end Memory
end CacheService
