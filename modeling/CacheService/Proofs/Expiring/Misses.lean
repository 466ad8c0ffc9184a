import CacheService.Proofs.Expiring.Sweeping

/-!
# Asking for items that are not there

To ask for an item, or to remove one that has expired, takes expired entries away and nothing else.
A read may take the clock twice, for the sweep that comes before it and for itself, and whatever is
live at both readings stays as it is (`keepsLive_get`).
-/

namespace CacheService
namespace ObjectStore

variable {κ α : Type} [Ord κ] [Std.TransOrd κ]

/-- What is left of a store: all entries that are live at each of some readings of the clock, and no
entries but those that were there. -/
structure KeepsLive (readings : List UInt64) (s s' : ObjectStore κ α) : Prop where
  live : ∀ (key : κ) (t : Timed α), s.entries[key]? = some t →
    (∀ now ∈ readings, now < t.deadline) → s'.entries[key]? = some t
  old : ∀ (key : κ) (t : Timed α), s'.entries[key]? = some t → s.entries[key]? = some t

namespace KeepsLive

variable {readings readings' : List UInt64} {s s' s'' : ObjectStore κ α}

theorem of_entries_eq (h : s'.entries = s.entries) : KeepsLive readings s s' where
  live key t ht _ := by rw [h, ht]
  old key t ht := by rw [← h, ht]

/-- One after the other they keep what is live at the readings of both. -/
theorem trans (h : KeepsLive readings s s') (h' : KeepsLive readings' s' s'') :
    KeepsLive (readings ++ readings') s s'' where
  live key t ht hlive := by
    obtain ⟨hfirst, hsecond⟩ := List.forall_mem_append.1 hlive
    exact h'.live key t (h.live key t ht hfirst) hsecond
  old key t ht := h.old key t (h'.old key t ht)

/-- With more readings there are fewer live entries. -/
theorem mono (h : KeepsLive readings s s') (hsub : readings ⊆ readings') :
    KeepsLive readings' s s' where
  live key t ht hlive := h.live key t ht fun now hnow => hlive now (hsub hnow)
  old := h.old

end KeepsLive

variable [Std.LawfulEqOrd κ] (s : ObjectStore κ α)

/-- A key whose entry is not live loses it. -/
theorem keepsLive_erase {now : UInt64} {key : κ}
    (hgone : ∀ t, s.entries[key]? = some t → t.deadline ≤ now) :
    KeepsLive [now] s { s with entries := s.entries.erase key } where
  live other t ht hlive := by
    by_cases hkey : key = other
    · -- the entry would be live and expired
      subst hkey
      exact absurd (hlive now List.mem_cons_self) (UInt64.not_lt.2 (hgone t ht))
    · exact (getElem?_erase_of_ne _ hkey).trans ht
  old other t ht := by
    rw [Std.ExtTreeMap.getElem?_erase] at ht
    split at ht
    · cases ht
    · exact ht

/-- A read takes an entry out only if that has expired at its reading. -/
theorem keepsLive_readAt (now : UInt64) (key : κ) : KeepsLive [now] s (s.readAt now key).2 := by
  rcases readAt_cases s now key with ⟨t, ht, hexpired, hevicted⟩ | hkept
  · rw [hevicted]
    refine s.keepsLive_erase fun t' ht' => ?_
    obtain rfl : t = t' := Option.some.inj (ht.symm.trans ht')
    exact hexpired
  · rw [hkept]
    exact .of_entries_eq rfl

/-- A sweep takes out only what has expired at its reading. -/
theorem keepsLive_clean (now : UInt64) : KeepsLive [now] s (s.clean now).2 := by
  cases hs : s.sweeping with
  | true => simpa [clean, hs] using KeepsLive.of_entries_eq rfl
  | false =>
    have hswept := sweptAt_clean hs now
    constructor
    · intro key t ht hlive
      rw [hswept.entries, ht, Option.filter_some, if_pos]
      exact decide_eq_true (hlive now List.mem_cons_self)
    · intro key t ht
      rw [hswept.entries, Option.filter_eq_some_iff] at ht
      exact ht.1

/-- A read and the sweep before it, each at its own reading of the clock. -/
theorem keepsLive_get (sweepTime now : UInt64) (key : κ) :
    KeepsLive [sweepTime, now] s (s.get sweepTime now key).2 := by
  have hcounted : KeepsLive [] s s.countRead.2 := .of_entries_eq rfl
  have hswept : KeepsLive [sweepTime] s
      (if s.countRead.1 then (s.countRead.2.clean sweepTime).2 else s.countRead.2) := by
    split
    · exact hcounted.trans (keepsLive_clean _ sweepTime)
    · exact hcounted.mono (List.nil_subset _)
  exact hswept.trans (keepsLive_readAt _ now key)

/-- What a removal does not answer has expired. -/
theorem keepsLive_removeAt {now : UInt64} {key : κ} (h : (s.removeAt now key).1 = none) :
    KeepsLive [now] s (s.removeAt now key).2 := by
  refine s.keepsLive_erase fun t ht => ?_
  rw [← isExpired_iff_le]
  simpa [removeAt, ht] using h

end ObjectStore
end CacheService
