import CacheService.Proofs.TextStore.Confinement
import CacheService.Proofs.TextStore.Looking

/-!
# Versions are not seen

Two tiers with the same files and the same copies answer alike and stay alike, whatever the versions
of keys are: a stamp is compared with what the same tier says later, and nothing else looks at
versions (`FastTier.Alike`).

A whole operation is made of steps, and so it makes no copy of a text with bad names
(`FastTier.confined_perform`).
-/

namespace CacheService
namespace FastTier

variable {t t' : FastTier}

/-! ## Tiers that are alike -/

/-- A copy that is kept with a stamp that was just taken. -/
theorem entries_promote_stamp (m : Memory) (key : TextKey) (text : String) :
    (m.promote key text (m.stamp key)).entries = m.entries.insert key text := by
  rw [Memory.promote, if_pos rfl]

namespace Alike

/-- A read with nobody in between cannot tell versions apart. -/
theorem find (h : Alike t' t) (free : Double) (key : TextKey) :
    (t'.find free key).1 = (t.find free key).1 ∧
      Alike (t'.find free key).2 (t.find free key).2 := by
  unfold FastTier.find beginRead
  rw [h.entries, h.files]
  cases t.memory.entries[key]? with
  | some text => exact ⟨rfl, h⟩
  | none =>
    rcases t.files.tier.find key with ⟨e | _ | text, files⟩
    · exact ⟨rfl, rfl, h.entries, h.minFree⟩
    · exact ⟨rfl, rfl, h.entries, h.minFree⟩
    · -- both stamps are still good, so both keep the copy if memory allows
      refine ⟨rfl, rfl, ?_, h.minFree⟩
      simp only [endRead, h.minFree]
      split
      · rw [entries_promote_stamp, entries_promote_stamp, h.entries]
      · exact h.entries

theorem write (h : Alike t' t) (key : TextKey) (text : String) :
    (t'.write key text).1 = (t.write key text).1 ∧
      Alike (t'.write key text).2 (t.write key text).2 := by
  unfold FastTier.write
  rw [h.files]
  refine ⟨rfl, rfl, ?_, h.minFree⟩
  simp only [Memory.invalidate, h.entries]

/-- Of equal copies the same ones are dropped. -/
theorem diskThenMemory {α : Type} (h : Alike t' t) (act : TextFiles → Outcome α × TextFiles)
    {drop : Memory → Memory}
    (hdrop : ∀ m m' : Memory, m'.entries = m.entries → (drop m').entries = (drop m).entries) :
    (t'.diskThenMemory act drop).1 = (t.diskThenMemory act drop).1 ∧
      Alike (t'.diskThenMemory act drop).2 (t.diskThenMemory act drop).2 := by
  unfold FastTier.diskThenMemory
  rw [h.files]
  rcases act t.files.tier with ⟨e | a, files⟩
  · exact ⟨rfl, rfl, h.entries, h.minFree⟩
  · exact ⟨rfl, rfl, hdrop _ _ h.entries, h.minFree⟩

theorem clear (h : Alike t' t) (textType : String) :
    (t'.clear textType).1 = (t.clear textType).1 ∧
      Alike (t'.clear textType).2 (t.clear textType).2 := by
  refine h.diskThenMemory _ fun m m' hentries => ?_
  simp only [Memory.clearWhere, hentries]

theorem onFiles {α : Type} (h : Alike t' t) (act : TextFiles → α × TextFiles) :
    (t'.onFiles act).1 = (t.onFiles act).1 ∧ Alike (t'.onFiles act).2 (t.onFiles act).2 := by
  unfold FastTier.onFiles
  rw [h.files]
  exact ⟨rfl, rfl, h.entries, h.minFree⟩

end Alike

/-! ## Operations that fail or find nothing -/

/-- A read that finds nothing, or fails, has looked at the files and kept no copy. -/
theorem find_of_unfound {free : Double} {key : TextKey}
    (h : ∀ text, (t.find free key).1 ≠ .ok (some text)) :
    (t.find free key).2 =
      { t with files := { t.files with tier := (t.files.tier.find key).2 } } := by
  revert h
  unfold FastTier.find beginRead
  cases t.memory.entries[key]? with
  | some text => exact fun h => absurd rfl (h text)
  | none =>
    rcases t.files.tier.find key with ⟨e | _ | text, files⟩
    · exact fun _ => rfl
    · exact fun _ => rfl
    · exact fun h => absurd rfl (h text)

/-- What works on the disk before it drops copies fails for its files only. -/
theorem onDisk_diskThenMemory {α : Type} {act : TextFiles → Outcome α × TextFiles}
    (h : ∀ f, OnDisk (act f).1) (drop : Memory → Memory) (t : FastTier) :
    OnDisk (t.diskThenMemory act drop).1 := by
  have hact := h t.files.tier
  unfold FastTier.diskThenMemory
  rcases hr : act t.files.tier with ⟨e | a, files⟩ <;> rw [hr] at hact
  · exact hact
  · exact .ok a

/-! ## Copies of texts with good names -/

/-- No number of steps copies a text with bad names. -/
theorem confined_steps (free : Double) (n : Nat) (g : Stage) (hg : g.Confined)
    (h : t.Confined) : (steps free n g t).2.Confined := by
  induction n generalizing g t with
  | zero => exact h
  | succ n ih =>
    obtain ⟨hg', h'⟩ := confined_step free g t hg h
    exact ih _ hg' h'

theorem confined_perform (free : Double) (operation : Operation) (h : t.Confined) :
    (t.perform free operation).2.Confined := by
  have hsteps := confined_steps free 3 (.beginning operation) trivial h
  rwa [steps_alone] at hsteps

end FastTier
end CacheService
