import CacheService.Proofs.Lookup.FiniteMap

/-!
# Normal forms of keys

A key is brought to its normal form in two ways. One makes the form outright, and lower-cases a text
with regard to what stands around its sigmas. The other looks at one character after the other, and
keeps the key if none has another small form. They agree on every key, and the second keeps exactly
the keys in normal form (`renormal_kept_iff`).
-/

namespace CacheService
namespace Key

/-- A key is kept exactly if its normal form is the key itself. -/
theorem renormal_eq (k : Key) :
    k.renormal = if k.normal = k then .kept k else .changed k.normal := by
  cases k with
  | text s =>
    have hsame : (text s).normal = text s ↔ Text.smallLettersOf s.toList = s.toList := by
      rw [← Text.lowerCase_eq_self_iff, normal, text.injEq]
    simp only [renormal, hsame]
    rfl
  | null => rfl
  | flag b => exact (if_pos rfl).symm
  | integer i => exact (if_pos rfl).symm

/-- Asking for the normal form answers the key that making it outright makes. It keeps the key if
that is the same key, and changes it if it is another one, neither more nor less. A normal form is
its own normal form, and kept. -/
theorem renormal_kept_iff (k : Key) :
    k.renormal.key = k.normal ∧
      (k.renormal = .kept k ↔ k.normal = k) ∧
      (k.renormal = .changed k.normal ↔ k.normal ≠ k) ∧
      k.normal.normal = k.normal ∧
      k.normal.renormal = .kept k.normal := by
  have hkept : ∀ k : Key, k.normal = k → k.renormal = .kept k := fun k h => by
    rw [renormal_eq, if_pos h]
  have hchanged : k.normal ≠ k → k.renormal = .changed k.normal := fun h => by
    rw [renormal_eq, if_neg h]
  refine ⟨k.renormal_key, ⟨fun h => ?_, hkept k⟩, ⟨fun h hsame => ?_, hchanged⟩, k.normal_normal,
    hkept _ k.normal_normal⟩
  · by_contra hother
    rw [hchanged hother] at h
    cases h
  · rw [hkept k hsame] at h
    cases h

end Key
end CacheService
