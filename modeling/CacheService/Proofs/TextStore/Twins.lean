import CacheService.Proofs.TextStore.Counting
import CacheService.Proofs.TextStore.Failure
import CacheService.Proofs.TextStore.Looking
import CacheService.Proofs.TextStore.Names
import CacheService.Proofs.TextStore.Questions
import CacheService.Proofs.TextStore.Requests
import CacheService.Proofs.TextStore.Tidy

/-!
# Copies in memory stand in for reads that fail

A cache with copies in memory and one without, opened on the same directory, answer the same to the
same requests, count the same hits and misses, and leave the same on the disk, however much memory
is free at any time. There is one exception: a read that the disk fails is still answered if there
is a copy, by the text that the disk holds, and is counted as a hit. `FastTier.Mirrors` is what
relates the two caches between requests.

One thing is asked of the disk, that a clearing which fails has not deleted a text (`Whole`). So it
is on a directory that only such caches have written to, if nothing fails after a clearing has
listed names (`wholeIn_of_spare`). Everything else may fail in any way.
-/

namespace CacheService

open FileTree Outcome Function

/-! ## Looking at the disk -/

namespace TextFiles

/-- The same files in the same layout. -/
structure Same (f f' : TextFiles) : Prop where
  layout : f'.toTextLayout = f.toTextLayout
  tree : f'.disk.tree = f.disk.tree

variable {f f' : TextFiles} {key : TextKey}

theorem Same.refl (f : TextFiles) : Same f f :=
  ⟨rfl, rfl⟩

theorem Same.symm (h : Same f f') : Same f' f :=
  ⟨h.layout.symm, h.tree.symm⟩

theorem Same.stored? (h : Same f f') (key : TextKey) : f'.stored? key = f.stored? key := by
  unfold TextFiles.stored?
  simp only [entryPath_congr h.layout, textOf_congr h.layout, h.tree]

theorem Looked.same (h : Looked f f') : Same f f' := by
  obtain ⟨calls, rfl⟩ := h
  exact ⟨rfl, rfl⟩

/-- A text that the disk holds has a path. -/
theorem entryPath_of_stored? {text : String} (h : f.stored? key = some text) :
    f.entryPath key = .ok (f.root ++ [key.textType] ++ [key.id]) := by
  unfold stored? at h
  cases hp : f.entryPath key with
  | error e => simp [hp] at h
  | ok path => rw [(entryPath_eq_ok hp).1]

/-- Only texts with good names are stored. -/
theorem checkKey_of_stored? {text : String} (h : f.stored? key = some text) :
    TextName.checkKey key = .ok () := by
  obtain ⟨u, hid, hpath⟩ := bind_eq_ok_iff.1 (entryPath_of_stored? h)
  obtain ⟨directory, hdirectory, -⟩ := bind_eq_ok_iff.1 hpath
  obtain ⟨u, hcheck, -⟩ := bind_eq_ok_iff.1 hdirectory
  obtain ⟨u, htype, -⟩ := bind_eq_ok_iff.1 hcheck
  exact bind_eq_ok_iff.2 ⟨(), htype, hid⟩

/-- A text that is there is read, unless the call fails by itself. -/
theorem find_of_stored? {text : String} (hfault : f.disk.fault (f.disk.calls + 1) = none)
    (h : f.stored? key = some text) : (f.find key).1 = .ok (some text) := by
  obtain ⟨path, hp⟩ : ∃ path, f.entryPath key = .ok path := ⟨_, entryPath_of_stored? h⟩
  unfold stored? at h
  cases hr : f.disk.tree.read path with
  | error e => simp [hp, hr] at h
  | ok bytes =>
    have htext : f.textOf bytes = .ok text := by
      cases ht : f.textOf bytes with
      | error e => simp [hp, hr, ht] at h
      | ok found => simpa [hp, hr, ht] using h
    have hlook : (f.disk.look fun t => t.read path).1 = .ok bytes := by
      simp only [Disk.look, hfault, hr]
    rw [find_fst, hp, ok_bind, hlook, foundOf, ok_bind, unpacked, htext]
    rfl

/-- If the call fails by itself, so does the read. -/
theorem find_of_fault {text : String} {e : IoError}
    (hfault : f.disk.fault (f.disk.calls + 1) = some e) (hne : e ≠ .notFound)
    (h : f.stored? key = some text) :
    (f.find key).1 = .error (f.failure (f.root ++ [key.textType] ++ [key.id]) e) := by
  have hlook : (f.disk.look fun t => t.read (f.root ++ [key.textType] ++ [key.id])).1 =
      .error e := by
    simp only [Disk.look, hfault]
  have hfound : f.foundOf (α := List UInt8) (f.root ++ [key.textType] ++ [key.id]) (.error e) =
      .error (f.failure (f.root ++ [key.textType] ++ [key.id]) e) := by
    cases e with
    | notFound => exact absurd rfl hne
    | _ => rfl
  rw [find_fst, entryPath_of_stored? h, ok_bind, hlook, hfound, error_bind]

end TextFiles

/-! ## Tiers -/

namespace FastTier

open TextFiles

/-- A tier with copies of what the disk of another one holds, on the same directory. -/
structure Mirrors (t : FastTier) (f : TextFiles) : Prop where
  same : Same f t.files.tier
  isTree : f.disk.tree.IsTree
  copies : ∀ key text, t.memory.entries[key]? = some text → f.stored? key = some text

/-- What a read answers with a copy at hand, and what the disk alone answers: the same, unless the
disk fails and the copy is answered. The type of the text is noted then. -/
inductive Reads (f : TextFiles) (key : TextKey) (copy : Option String) :
    List String → Outcome (Option String) → Outcome (Option String) → Prop
  | same {outcome : Outcome (Option String)}
      (h : copy = none ∨ f.disk.fault (f.disk.calls + 1) = none) :
      Reads f key copy [] outcome outcome
  | alone {text : String} {e : IoError} (copied : copy = some text)
      (stored : f.stored? key = some text) (fails : f.disk.fault (f.disk.calls + 1) = some e) :
      Reads f key copy [key.textType] (.ok (some text))
        (.error (f.failure (f.root ++ [key.textType] ++ [key.id]) e))

namespace Mirrors

variable {t : FastTier} {f f' : TextFiles}

/-- Copies that were there before are good where the texts are the same. -/
theorem copies_of_eq (h : t.Mirrors f) {key : TextKey} {text : String}
    (hcopy : t.memory.entries[key]? = some text) (hstored : f'.stored? key = f.stored? key) :
    f'.stored? key = some text := by
  rw [hstored]
  exact h.copies key text hcopy

/-- Work on the files alone that changes nothing. -/
theorem onFiles {α : Type} (h : t.Mirrors f) (hfiles : t.files.tier = f)
    (act : TextFiles → α × TextFiles) (hact : Same f (act f).2) :
    (t.onFiles act).1 = (act f).1 ∧ (t.onFiles act).2.Mirrors (act f).2 := by
  simp only [FastTier.onFiles, TextCache.onTier, hfiles]
  refine ⟨trivial, .refl _, by rw [hact.tree]; exact h.isTree, ?_⟩
  intro key text hcopy
  exact h.copies_of_eq hcopy (hact.stored? key)

/-- A text that has a copy is read by both, unless the disk fails. -/
theorem reads_of_copy (h : t.Mirrors f) (hhonest : f.disk.fault (f.disk.calls + 1) ≠ some .notFound)
    {key : TextKey} {text : String} (hcopy : t.memory.entries[key]? = some text) :
    ∃ now, Reads f key (some text) now (.ok (some text)) (f.find key).1 := by
  have hstored := h.copies key text hcopy
  cases hfault : f.disk.fault (f.disk.calls + 1) with
  | none =>
    rw [find_of_stored? hfault hstored]
    exact ⟨_, .same (.inr hfault)⟩
  | some e =>
    have hne : e ≠ .notFound := by
      rintro rfl
      exact hhonest hfault
    rw [find_of_fault hfault hne hstored]
    exact ⟨_, .alone rfl hstored hfault⟩

/-- A read is answered from a copy if there is one, and else as the disk answers it. -/
theorem find (h : t.Mirrors f) (hfiles : t.files.tier = f)
    (hhonest : f.disk.fault (f.disk.calls + 1) ≠ some .notFound) (key : TextKey) (free : Double) :
    (∃ now, Reads f key t.memory.entries[key]? now (t.find free key).1 (f.find key).1) ∧
      (t.find free key).2.Mirrors (f.find key).2 ∧
      ((t.find free key).1 = .ok none → (t.find free key).2.files.tier = (f.find key).2) := by
  have hsame := (looked_find f key).same
  have htree : (f.find key).2.disk.tree.IsTree := by
    rw [hsame.tree]
    exact h.isTree
  -- what is read changes no file, so the copies that are left are good
  have hcopies : ∀ k copy, t.memory.entries[k]? = some copy →
      (f.find key).2.stored? k = some copy := by
    intro k copy hk
    exact h.copies_of_eq hk (hsame.stored? k)
  cases hcopy : t.memory.entries[key]? with
  | some text =>
    have hfind : t.find free key = (.ok (some text), t) := by
      simp only [FastTier.find, beginRead, hcopy, endRead]
    rw [hfind]
    refine ⟨h.reads_of_copy hhonest hcopy, ⟨?_, htree, hcopies⟩, by simp⟩
    rw [hfiles]
    exact hsame.symm
  | none =>
    obtain ⟨-, hsome, -⟩ := find_spec h.isTree (Prod.eta (f.find key)).symm
    rcases hf : f.find key with ⟨outcome, f'⟩
    rw [hf] at hsame htree hcopies hsome
    rcases outcome with e | _ | text <;>
      simp only [FastTier.find, beginRead, hcopy, hfiles, hf, endRead]
    · exact ⟨⟨_, .same (.inl rfl)⟩, ⟨.refl _, htree, hcopies⟩, by simp⟩
    · exact ⟨⟨_, .same (.inl rfl)⟩, ⟨.refl _, htree, hcopies⟩, fun _ => trivial⟩
    · -- the text that was read may be copied
      refine ⟨⟨_, .same (.inl rfl)⟩, ⟨.refl _, htree, ?_⟩, by simp⟩
      intro k copy hk
      split at hk
      · rcases Memory.entries_promote hk with hk | ⟨rfl, rfl, -⟩
        · exact hcopies k copy hk
        · rw [hsame.stored?]
          exact hsome copy rfl
      · exact hcopies k copy hk

/-- A write drops the copy of its key, so the others are still what the disk holds. -/
theorem write (h : t.Mirrors f) (hfiles : t.files.tier = f) (key : TextKey) (text : String) :
    (t.write key text).1 = (f.write key text).1 ∧
      (t.write key text).2.Mirrors (f.write key text).2 := by
  rcases hw : f.write key text with ⟨outcome, f'⟩
  have hleaves := (write_spec h.isTree hw).1
  simp only [FastTier.write, hfiles, hw]
  refine ⟨trivial, .refl _, hleaves.isTree, ?_⟩
  intro k copy hk
  -- the copy of the key is gone, and the other texts are as they were
  rw [Memory.entries_invalidate] at hk
  by_cases hkey : key = k
  · simp [hkey] at hk
  · rw [if_neg hkey] at hk
    exact h.copies_of_eq hk (hleaves.texts k fun htouched => hkey htouched.2.symm)

/-- Work on the disk that drops copies when it succeeds, and changes no text when it fails. -/
theorem diskThenMemory {α : Type} (h : t.Mirrors f) (hfiles : t.files.tier = f)
    {act : TextFiles → Outcome α × TextFiles} {drop : Memory → Memory}
    (htree : (act f).2.disk.tree.IsTree)
    (hfailed : ∀ e, (act f).1 = .error e → ∀ k, (act f).2.stored? k = f.stored? k)
    (hdone : ∀ a, (act f).1 = .ok a → ∀ k copy, (drop t.memory).entries[k]? = some copy →
      (act f).2.stored? k = some copy) :
    (t.diskThenMemory act drop).1 = (act f).1 ∧
      (t.diskThenMemory act drop).2.Mirrors (act f).2 := by
  rcases hact : act f with ⟨e | a, f'⟩ <;> rw [hact] at htree hfailed hdone <;>
    simp only [FastTier.diskThenMemory, hfiles, hact]
  · refine ⟨trivial, .refl _, htree, ?_⟩
    intro k copy hk
    exact h.copies_of_eq hk (hfailed e rfl k)
  · exact ⟨trivial, .refl _, htree, hdone a rfl⟩

/-- A removal drops the copy of its key if it succeeds, and has removed nothing if it fails. -/
theorem remove (h : t.Mirrors f) (hfiles : t.files.tier = f) (key : TextKey) :
    (t.remove key).1 = (f.remove key).1 ∧ (t.remove key).2.Mirrors (f.remove key).2 := by
  rcases hr : f.remove key with ⟨outcome, f'⟩
  have hleaves := (remove_spec h.isTree hr).1
  rw [← hr]
  apply h.diskThenMemory hfiles
  · rw [hr]
    exact hleaves.isTree
  · rintro e he k
    rw [hr] at he ⊢
    obtain rfl : outcome = .error e := he
    exact stored?_of_remove_error h.isTree hr k
  · intro existed _ k copy hk
    rw [Memory.entries_invalidate] at hk
    by_cases hkey : key = k
    · simp [hkey] at hk
    · rw [if_neg hkey] at hk
      rw [hr]
      exact h.copies_of_eq hk (hleaves.texts k (Ne.symm hkey))

/-- A clearing that fails drops no copy, so it must not have deleted a text. -/
theorem clear (h : t.Mirrors f) (hfiles : t.files.tier = f) {textType : String}
    (hwhole : ∀ e, (f.clear textType).1 = .error e →
      ∀ k, (f.clear textType).2.stored? k = f.stored? k) :
    (t.clear textType).1 = (f.clear textType).1 ∧
      (t.clear textType).2.Mirrors (f.clear textType).2 := by
  have hleaves := (clear_spec h.isTree (Prod.eta (f.clear textType)).symm).1
  apply h.diskThenMemory hfiles
  · exact hleaves.isTree
  · exact hwhole
  · intro n _ k copy hk
    rw [Memory.entries_clearWhere] at hk
    by_cases htype : k.textType = textType
    · simp [htype] at hk
    · rw [if_neg (by simpa using htype)] at hk
      exact h.copies_of_eq hk (hleaves.texts k htype)

theorem clearAll (h : t.Mirrors f) (hfiles : t.files.tier = f)
    (hwhole : ∀ e, f.clearAll.1 = .error e → ∀ k, f.clearAll.2.stored? k = f.stored? k) :
    t.clearAll.1 = f.clearAll.1 ∧ t.clearAll.2.Mirrors f.clearAll.2 := by
  obtain ⟨-, htree, -⟩ := clearAll_thins h.isTree (Prod.eta f.clearAll).symm
  apply h.diskThenMemory hfiles
  · exact htree
  · exact hwhole
  · -- no copies are left
    intro n _ k copy hk
    rw [Memory.entries_clearWhere] at hk
    simp at hk

end Mirrors
end FastTier

/-! ## Counters -/

/-- Counters that have the same reads as others, and some more that found texts of the given
types. -/
def Stats.Ahead (more : List String) (s s' : Stats) : Prop :=
  ∃ reads, s.Counts reads reads ∧
    s'.Counts (more.map (·, true) ++ reads) (more.map (·, true) ++ reads)

namespace Stats.Ahead

variable {more : List String} {s s' : Stats}

/-- A read that both count is no difference. -/
theorem record (h : Ahead more s s') (t : String) (found : Bool) :
    Ahead more (s.record t found) (s'.record t found) := by
  obtain ⟨reads, hs, hs'⟩ := h
  exact ⟨_, hs.record t found, (hs'.record t found).perm List.perm_middle List.perm_middle⟩

/-- A read that only one counts is one that has found a text. -/
theorem hit (h : Ahead more s s') (t : String) : Ahead (more ++ [t]) s (s'.record t true) := by
  obtain ⟨reads, hs, hs'⟩ := h
  have hperm : ((more ++ [t]).map (·, true) ++ reads).Perm
      ((t, true) :: (more.map (·, true) ++ reads)) := by
    rw [List.map_append, List.append_assoc]
    exact List.perm_middle
  exact ⟨reads, hs, (hs'.record t true).perm hperm hperm⟩

end Stats.Ahead

/-! ## Caches -/

/-- The occasion of a request: the time, how much memory is free, and which of the calls that the
request makes fail by themselves. None of these says that something is missing. -/
structure Occasion where
  now : Instant
  free : Double
  fault : Nat → Option IoError
  honest : ∀ call, fault call ≠ some .notFound

/-- A request, and the occasion on which it comes. -/
abbrev Visit : Type :=
  Occasion × TextRequest

/-- The disk before the first call of a request. -/
def TextFiles.within (s : Occasion) (f : TextFiles) : TextFiles :=
  { f with disk := { f.disk with now := s.now, calls := 0, fault := s.fault } }

def DiskCache.visit (v : Visit) (c : DiskCache) : TextAnswer × DiskCache :=
  TextCache.answer TextFiles.service v.2 { c with tier := c.tier.within v.1 }

def FastCache.visit (v : Visit) (c : FastCache) : TextAnswer × FastCache :=
  let files := { c.tier.files with tier := c.tier.files.tier.within v.1 }
  TextCache.answer (FastTier.service v.1.free) v.2 { c with tier := { c.tier with files } }

/-- A clearing that fails on this occasion has not deleted a text. -/
def DiskCache.Whole (v : Visit) (c : DiskCache) : Prop :=
  ∀ e, (c.visit v).1 = .cleared (.error e) →
    ∀ key, (c.visit v).2.tier.stored? key = c.tier.stored? key

/-- No clearing deletes texts and fails then. -/
def DiskCache.WholeIn : List Visit → DiskCache → Prop
  | [], _ => True
  | v :: rest, c => c.Whole v ∧ WholeIn rest (c.visit v).2

/-- The type of the text that a visit reads from a copy while the disk fails. -/
def FastCache.alone (v : Visit) (c : FastCache) : List String :=
  match v.2.read? with
  | some key =>
    if (v.1.fault 1).isSome && c.tier.memory.entries[key]?.isSome then [key.textType] else []
  | none => []

/-- The types of the texts that are read from copies while the disk fails, visit by visit. -/
def FastCache.aloneIn : List Visit → FastCache → List String
  | [], _ => []
  | v :: rest, c => c.alone v ++ aloneIn rest (c.visit v).2

/-- What a cache with copies answers to a visit, and what one without answers: the same, unless the
disk fails to read a text that there is a copy of. Then the one answers the text that the disk holds
and the other the failure, and neither makes a text. -/
inductive SameOrCopied (disk : DiskCache) (v : Visit) : List String → TextAnswer → TextAnswer → Prop
  | same (answer : TextAnswer) : SameOrCopied disk v [] answer answer
  | copied {key : TextKey} {text : String} {e : IoError} (read : v.2.read? = some key)
      (stored : disk.tier.stored? key = some text) (fails : v.1.fault 1 = some e) :
      SameOrCopied disk v [key.textType] (v.2.answerRead (.ok text))
        (v.2.answerRead (.error
          (disk.tier.failure (disk.tier.root ++ [key.textType] ++ [key.id]) e)))

/-- The occasion does not change what is stored. -/
theorem SameOrCopied.of_within {disk : DiskCache} {v : Visit} {now : List String}
    {answer answer' : TextAnswer}
    (h : SameOrCopied { disk with tier := disk.tier.within v.1 } v now answer answer') :
    SameOrCopied disk v now answer answer' := by
  cases h with
  | same => exact .same _
  | copied read stored fails => exact .copied read stored fails

/-- The answers where a copy has been read alone. -/
theorem SameOrCopied.eq_answerRead {disk : DiskCache} {v : Visit} {textType : String}
    {answer answer' : TextAnswer} (h : SameOrCopied disk v [textType] answer answer') :
    ∃ text e, answer = v.2.answerRead (.ok text) ∧ answer' = v.2.answerRead (.error e) := by
  cases h with
  | copied read stored fails => exact ⟨_, _, rfl, rfl⟩

/-- Two caches that can be told apart only by reads that the disk fails. -/
structure Twins (alone : List String) (fast : FastCache) (disk : DiskCache) : Prop where
  tier : fast.tier.Mirrors disk.tier
  stats : Stats.Ahead alone disk.stats fast.stats

namespace Twins

open TextFiles

variable {alone : List String} {fast : FastCache} {disk : DiskCache}

/-- Work on the tiers that is not counted. -/
theorem onTier {α : Type} (h : Twins alone fast disk) {act : FastTier → α × FastTier}
    {act' : TextFiles → α × TextFiles}
    (hact : (act fast.tier).1 = (act' disk.tier).1 ∧
      (act fast.tier).2.Mirrors (act' disk.tier).2) (wrap : α → TextAnswer) :
    ((fast.onTier act).map wrap id).1 = ((disk.onTier act').map wrap id).1 ∧
      Twins alone ((fast.onTier act).map wrap id).2 ((disk.onTier act').map wrap id).2 :=
  ⟨congrArg wrap hact.1, hact.2, h.stats⟩

/-- Both read alike, unless the one answers a copy while the disk of the other fails. -/
theorem get (h : Twins alone fast disk) (hfiles : fast.tier.files.tier = disk.tier)
    (hhonest : disk.tier.disk.fault (disk.tier.disk.calls + 1) ≠ some .notFound) (key : TextKey)
    (free : Double) :
    ∃ now, FastTier.Reads disk.tier key fast.tier.memory.entries[key]? now
        (fast.get (FastTier.tier free) key).1 (disk.get TextFiles.tier key).1 ∧
      Twins (alone ++ now) (fast.get (FastTier.tier free) key).2
        (disk.get TextFiles.tier key).2 ∧
      ((fast.get (FastTier.tier free) key).1 = .ok none →
        (fast.get (FastTier.tier free) key).2.tier.files.tier =
          (disk.get TextFiles.tier key).2.tier) := by
  cases hkey : TextName.checkKey key with
  | error e =>
    -- there is no copy of a text whose names are refused
    have hnone : fast.tier.memory.entries[key]? = none := by
      cases hcopy : fast.tier.memory.entries[key]? with
      | none => rfl
      | some text =>
        rw [checkKey_of_stored? (h.tier.copies key text hcopy)] at hkey
        cases hkey
    simp only [TextCache.get, hkey]
    exact ⟨[], .same (.inl hnone), by rwa [List.append_nil], by simp⟩
  | ok u =>
    obtain ⟨⟨now, hreads⟩, hmirrors, hmissed⟩ := h.tier.find hfiles hhonest key free
    have hfast : (FastTier.tier free).find key fast.tier = fast.tier.find free key := rfl
    have hdisk : TextFiles.tier.find key disk.tier = disk.tier.find key := rfl
    simp only [TextCache.get, hkey, hfast, hdisk]
    refine ⟨now, hreads, ?_, ?_⟩
    · -- both count the read in the same way, unless only a copy has answered it
      generalize (fast.tier.find free key).1 = outcome at hreads
      generalize (disk.tier.find key).1 = outcome' at hreads
      cases hreads with
      | same _ =>
        rw [List.append_nil]
        cases outcome with
        | error e => exact ⟨hmirrors, h.stats⟩
        | ok found => exact ⟨hmirrors, h.stats.record key.textType found.isSome⟩
      | alone copied stored fails => exact ⟨hmirrors, h.stats.hit key.textType⟩
    · intro hnone
      rw [TextCache.tier_settle, TextCache.tier_settle]
      exact hmissed hnone

theorem write (h : Twins alone fast disk) (hfiles : fast.tier.files.tier = disk.tier)
    (key : TextKey) (text : String) :
    (fast.tier.write key text).1 = (disk.tier.write key text).1 ∧
      Twins alone { fast with tier := (fast.tier.write key text).2 }
        { disk with tier := (disk.tier.write key text).2 } := by
  obtain ⟨hanswer, hmirrors⟩ := h.tier.write hfiles key text
  exact ⟨hanswer, hmirrors, h.stats⟩

theorem put (h : Twins alone fast disk) (hfiles : fast.tier.files.tier = disk.tier)
    (free : Double) (key : TextKey) (text : String) :
    (fast.put (FastTier.tier free) key text).1 = (disk.put TextFiles.tier key text).1 ∧
      Twins alone (fast.put (FastTier.tier free) key text).2
        (disk.put TextFiles.tier key text).2 := by
  cases hkey : TextName.checkKey key with
  | error e =>
    simp only [TextCache.put, hkey]
    exact ⟨trivial, h⟩
  | ok u =>
    simp only [TextCache.put, hkey]
    exact h.write hfiles key text

/-- Both make a text in the same cases, and both have read the disk then. -/
theorem supply (h : Twins alone fast disk) {outcome : Outcome (Option String)}
    (hmissed : outcome = .ok none → fast.tier.files.tier = disk.tier) (key : TextKey)
    (free : Double) (make : Outcome String) :
    (fast.supply (FastTier.tier free) key make outcome).1 =
        (disk.supply TextFiles.tier key make outcome).1 ∧
      Twins alone (fast.supply (FastTier.tier free) key make outcome).2
        (disk.supply TextFiles.tier key make outcome).2 := by
  rcases outcome with e | _ | text
  · exact ⟨rfl, h⟩
  · cases make with
    | error e => exact ⟨rfl, h⟩
    | ok text =>
      obtain ⟨hwritten, htwins⟩ := h.write (hmissed rfl) key text
      refine ⟨?_, htwins⟩
      have hmapped : (fast.tier.write key text).1.map (fun _ => text) =
          (disk.tier.write key text).1.map fun _ => text := by
        rw [hwritten]
      exact congrArg (fun o => (⟨o, true⟩ : TextCache.Supplied)) hmapped
  · exact ⟨rfl, h⟩

/-- Whether a read is answered from a copy alone is decided by its first call. -/
theorem eq_alone {v : Visit} {key : TextKey} {now : List String}
    {outcome outcome' : Outcome (Option String)} (hkey : v.2.read? = some key)
    (hfault : disk.tier.disk.fault (disk.tier.disk.calls + 1) = v.1.fault 1)
    (h : FastTier.Reads disk.tier key fast.tier.memory.entries[key]? now outcome outcome') :
    now = fast.alone v := by
  unfold FastCache.alone
  cases h with
  | same h => rcases h with hnone | hnone <;> simp [hkey, ← hfault, hnone]
  | alone copied stored fails => simp [hkey, ← hfault, copied, fails]

/-- A read is answered alike, whatever is made of it. -/
theorem answerRead {v : Visit} {key : TextKey} {now : List String}
    {outcome outcome' : Outcome (Option String)} (hkey : v.2.read? = some key)
    (hfault : disk.tier.disk.fault (disk.tier.disk.calls + 1) = v.1.fault 1)
    (h : FastTier.Reads disk.tier key fast.tier.memory.entries[key]? now outcome outcome')
    (wrap : Outcome (Option String) → TextAnswer)
    (hwrap : ∀ o, v.2.answerRead o = wrap (o.map some)) :
    SameOrCopied disk v now (wrap outcome) (wrap outcome') := by
  cases h with
  | same _ => exact .same _
  | @alone text e copied stored fails =>
    have halike := SameOrCopied.copied hkey stored (hfault.symm.trans fails)
    rwa [hwrap, hwrap] at halike

/-- A text is made by both or by neither, unless the one answers a copy while the disk fails. -/
theorem getOrInsert (h : Twins alone fast disk) (hfiles : fast.tier.files.tier = disk.tier)
    {v : Visit} (hhonest : disk.tier.disk.fault (disk.tier.disk.calls + 1) ≠ some .notFound)
    (hfault : disk.tier.disk.fault (disk.tier.disk.calls + 1) = v.1.fault 1) {key : TextKey}
    {make : Outcome String} (hv : v.2 = .getOrInsert key make) :
    SameOrCopied disk v (fast.alone v)
        (.supplied (fast.getOrInsert (FastTier.tier v.1.free) key make).1)
        (.supplied (disk.getOrInsert TextFiles.tier key make).1) ∧
      Twins (alone ++ fast.alone v) (fast.getOrInsert (FastTier.tier v.1.free) key make).2
        (disk.getOrInsert TextFiles.tier key make).2 := by
  have hkey : v.2.read? = some key := by rw [hv]; rfl
  obtain ⟨now, hreads, htwins, hmissed⟩ := h.get hfiles hhonest key v.1.free
  obtain rfl := eq_alone hkey hfault hreads
  unfold TextCache.getOrInsert
  generalize fast.get (FastTier.tier v.1.free) key = found at hreads htwins hmissed
  generalize disk.get TextFiles.tier key = found' at hreads htwins hmissed
  obtain ⟨outcome, fast'⟩ := found
  obtain ⟨outcome', disk'⟩ := found'
  dsimp only at hreads htwins hmissed ⊢
  generalize fast.alone v = now at hreads htwins ⊢
  cases hreads with
  | same _ =>
    obtain ⟨hsupplied, htwins⟩ := htwins.supply hmissed key v.1.free make
    rw [hsupplied]
    exact ⟨.same _, htwins⟩
  | @alone text e copied stored fails =>
    have halike := SameOrCopied.copied hkey stored (hfault.symm.trans fails)
    rw [hv] at halike
    exact ⟨halike, htwins⟩

/-- Twins answer any request alike, and are twins afterwards, if it is no clearing that deletes
texts and fails. -/
theorem answer (h : Twins alone fast disk) (hfiles : fast.tier.files.tier = disk.tier) {v : Visit}
    (hfault : disk.tier.disk.fault = v.1.fault) (hcalls : disk.tier.disk.calls = 0)
    (hwhole : ∀ e, (disk.answer TextFiles.service v.2).1 = .cleared (.error e) →
      ∀ key, (disk.answer TextFiles.service v.2).2.tier.stored? key = disk.tier.stored? key) :
    SameOrCopied disk v (fast.alone v) (fast.answer (FastTier.service v.1.free) v.2).1
        (disk.answer TextFiles.service v.2).1 ∧
      Twins (alone ++ fast.alone v) (fast.answer (FastTier.service v.1.free) v.2).2
        (disk.answer TextFiles.service v.2).2 := by
  -- no call has been made on this occasion yet
  have hfirst : disk.tier.disk.fault (disk.tier.disk.calls + 1) = v.1.fault 1 := by
    rw [hfault, hcalls]
  have hhonest : disk.tier.disk.fault (disk.tier.disk.calls + 1) ≠ some .notFound := by
    rw [hfirst]
    exact v.1.honest 1
  -- all but reads are answered in the same way
  have hsame : v.2.read? = none →
      ((fast.answer (FastTier.service v.1.free) v.2).1 = (disk.answer TextFiles.service v.2).1 ∧
        Twins alone (fast.answer (FastTier.service v.1.free) v.2).2
          (disk.answer TextFiles.service v.2).2) →
      SameOrCopied disk v (fast.alone v) (fast.answer (FastTier.service v.1.free) v.2).1
          (disk.answer TextFiles.service v.2).1 ∧
        Twins (alone ++ fast.alone v) (fast.answer (FastTier.service v.1.free) v.2).2
          (disk.answer TextFiles.service v.2).2 := by
    rintro hread ⟨hanswer, htwins⟩
    have hnone : fast.alone v = [] := by simp only [FastCache.alone, hread]
    rw [hnone, hanswer, List.append_nil]
    exact ⟨.same _, htwins⟩
  obtain ⟨s, request⟩ := v
  cases request with
  | get key =>
    obtain ⟨now, hreads, htwins, -⟩ := h.get hfiles hhonest key s.free
    obtain rfl := eq_alone (v := (s, .get key)) rfl hfirst hreads
    exact ⟨answerRead rfl hfirst hreads .found fun _ => rfl, htwins⟩
  | getLines key =>
    obtain ⟨now, hreads, htwins, -⟩ := h.get hfiles hhonest key s.free
    obtain rfl := eq_alone (v := (s, .getLines key)) rfl hfirst hreads
    exact ⟨answerRead rfl hfirst hreads (fun o => .lines (TextCache.linesOf o)) fun _ => rfl,
      htwins⟩
  | getOrInsert key make => exact h.getOrInsert hfiles hhonest hfirst rfl
  | put key text =>
    obtain ⟨hanswer, htwins⟩ := h.put hfiles s.free key text
    exact hsame rfl ⟨congrArg TextAnswer.written hanswer, htwins⟩
  | remove key => exact hsame rfl (h.onTier (h.tier.remove hfiles key) .removed)
  | clear textType =>
    have hkept := h.tier.clear hfiles fun e he => hwhole e (congrArg TextAnswer.cleared he)
    exact hsame rfl (h.onTier hkept .cleared)
  | clearAll =>
    have hkept := h.tier.clearAll hfiles fun e he => hwhole e (congrArg TextAnswer.cleared he)
    exact hsame rfl (h.onTier hkept .cleared)
  | ids textType =>
    exact hsame rfl (h.onTier
      (h.tier.onFiles hfiles (fun f => f.ids textType) (looked_ids _ textType).same) .named)
  | textTypes =>
    exact hsame rfl (h.onTier (h.tier.onFiles hfiles _ (looked_textTypes _).same) .named)
  | age key =>
    exact hsame rfl (h.onTier
      (h.tier.onFiles hfiles (fun f => f.age key) (looked_age _ key).same) .aged)
  | modified key =>
    exact hsame rfl (h.onTier
      (h.tier.onFiles hfiles (fun f => f.modified key) (looked_modified _ key).same) .dated)

/-- Whatever is asked on an occasion, twins stay twins if no clearing deletes texts and fails. -/
theorem visit (h : Twins alone fast disk) {v : Visit} (hwhole : disk.Whole v) :
    SameOrCopied disk v (fast.alone v) (fast.visit v).1 (disk.visit v).1 ∧
      Twins (alone ++ fast.alone v) (fast.visit v).2 (disk.visit v).2 := by
  have hfiles : fast.tier.files.tier.within v.1 = disk.tier.within v.1 := by
    obtain ⟨hlayout, htree⟩ := h.tier.same
    simp only [within, hlayout, htree]
  -- both disks are set in the same way, and no text is touched by that
  have hset : Twins alone
      { fast with tier := { fast.tier with files :=
        { fast.tier.files with tier := fast.tier.files.tier.within v.1 } } }
      { disk with tier := disk.tier.within v.1 } := by
    refine ⟨⟨?_, h.tier.isTree, fun key text hcopy => h.tier.copies_of_eq hcopy rfl⟩, h.stats⟩
    simp only [hfiles]
    exact .refl _
  obtain ⟨halike, htwins⟩ := hset.answer hfiles rfl rfl hwhole
  exact ⟨halike.of_within, htwins⟩

/-- Twins stay twins over any visits. -/
theorem run (h : Twins alone fast disk) {visits : List Visit} (hwhole : disk.WholeIn visits) :
    Twins (alone ++ fast.aloneIn visits) (answersOf FastCache.visit visits fast).2
      (answersOf DiskCache.visit visits disk).2 := by
  induction visits generalizing alone fast disk with
  | nil => rwa [FastCache.aloneIn, List.append_nil]
  | cons v rest ih =>
    obtain ⟨hfirst, hrest⟩ := hwhole
    have htwins := ih (h.visit hfirst).2 hrest
    rwa [List.append_assoc] at htwins

end Twins

/-! ## Tidy directories -/

/-- Nothing fails by itself while texts are cleared, but for the first call, which lists names. So
no deletion fails. -/
def Occasion.Spare (s : Occasion) : TextRequest → Prop
  | .clear _ | .clearAll => ∀ call, call ≠ 1 → s.fault call = none
  | _ => True

namespace DiskCache

open TextFiles

variable {c : DiskCache}

/-- Reads, and whatever else only looks, leave a directory tidy. -/
theorem tidy_of_same {f f' : TextFiles} (h : f.Tidy) (hsame : Same f f') : f'.Tidy :=
  h.of_tree_eq (congrArg TextLayout.root hsame.layout) hsame.tree

theorem tidy_get (h : c.tier.Tidy) (key : TextKey) :
    (c.get TextFiles.tier key).2.tier.Tidy := by
  unfold TextCache.get
  cases TextName.checkKey key with
  | error e => exact h
  | ok u =>
    dsimp only
    rw [TextCache.tier_settle]
    exact tidy_of_same h (looked_find c.tier key).same

theorem tidy_put (h : c.tier.Tidy) (key : TextKey) (text : String) :
    (c.put TextFiles.tier key text).2.tier.Tidy := by
  unfold TextCache.put
  cases TextName.checkKey key with
  | error e => exact h
  | ok u => exact h.write (Prod.eta (c.tier.write key text)).symm

theorem tidy_getOrInsert (h : c.tier.Tidy) (key : TextKey) (make : Outcome String) :
    (c.getOrInsert TextFiles.tier key make).2.tier.Tidy := by
  have hget := tidy_get h key
  unfold TextCache.getOrInsert
  generalize c.get TextFiles.tier key = found at hget ⊢
  obtain ⟨e | _ | text, c'⟩ := found
  · exact hget
  · cases make with
    | error e => exact hget
    | ok text => exact hget.write (Prod.eta (c'.tier.write key text)).symm
  · exact hget

/-- A clearing that fails has changed no text, if it has left the tree as it was. -/
theorem stored?_of_failed {f f' : TextFiles} {outcome : Outcome Nat}
    (hlayout : f'.toTextLayout = f.toTextLayout)
    (hcases : f'.disk.tree = f.disk.tree ∨ ∃ n, outcome = .ok n) {e : CacheError}
    (he : outcome = .error e) (key : TextKey) : f'.stored? key = f.stored? key := by
  obtain htree | ⟨n, hn⟩ := hcases
  · exact Same.stored? ⟨hlayout, htree⟩ key
  · cases hn.symm.trans he

/-- On a tidy directory a spared clearing is whole, and the directory stays tidy. -/
theorem tidy_visit (h : c.tier.Tidy) {v : Visit} (hspare : v.1.Spare v.2) :
    c.Whole v ∧ (c.visit v).2.tier.Tidy := by
  obtain ⟨s, request⟩ := v
  have hset : (c.tier.within s).Tidy := h.of_tree_eq rfl rfl
  cases request with
  | get key => exact ⟨by rintro e ⟨⟩, tidy_get hset key⟩
  | getLines key => exact ⟨by rintro e ⟨⟩, tidy_get hset key⟩
  | getOrInsert key make => exact ⟨by rintro e ⟨⟩, tidy_getOrInsert hset key make⟩
  | put key text => exact ⟨by rintro e ⟨⟩, tidy_put hset key text⟩
  | remove key =>
    exact ⟨by rintro e ⟨⟩, hset.remove (Prod.eta ((c.tier.within s).remove key)).symm⟩
  | clear textType =>
    have hclear := (Prod.eta ((c.tier.within s).clear textType)).symm
    have hlayout := (clear_spec hset.isTree hclear).1.layout
    obtain ⟨htidy, hcases⟩ := hset.clear hspare hclear
    exact ⟨fun e he => stored?_of_failed hlayout hcases (TextAnswer.cleared.inj he), htidy⟩
  | clearAll =>
    have hclear := (Prod.eta (c.tier.within s).clearAll).symm
    obtain ⟨hlayout, -⟩ := clearAll_thins hset.isTree hclear
    obtain ⟨htidy, hcases⟩ := hset.clearAll hspare hclear
    exact ⟨fun e he => stored?_of_failed hlayout hcases (TextAnswer.cleared.inj he), htidy⟩
  | ids textType =>
    exact ⟨by rintro e ⟨⟩, tidy_of_same hset (looked_ids _ textType).same⟩
  | textTypes => exact ⟨by rintro e ⟨⟩, tidy_of_same hset (looked_textTypes _).same⟩
  | age key => exact ⟨by rintro e ⟨⟩, tidy_of_same hset (looked_age _ key).same⟩
  | modified key => exact ⟨by rintro e ⟨⟩, tidy_of_same hset (looked_modified _ key).same⟩

/-- On a directory that holds what such caches write, and where no deletion fails, every clearing
that fails has deleted nothing. -/
theorem wholeIn_of_spare (h : c.tier.Tidy) {visits : List Visit}
    (hspare : ∀ v ∈ visits, v.1.Spare v.2) : c.WholeIn visits := by
  induction visits generalizing c with
  | nil => trivial
  | cons v rest ih =>
    obtain ⟨hfirst, hrest⟩ := List.forall_mem_cons.1 hspare
    obtain ⟨hwhole, htidy⟩ := tidy_visit h hfirst
    exact ⟨hwhole, ih htidy hrest⟩

/-! ## Runs -/

theorem wholeIn_append {before rest : List Visit} :
    c.WholeIn (before ++ rest) ↔
      c.WholeIn before ∧ WholeIn rest (answersOf DiskCache.visit before c).2 := by
  induction before generalizing c with
  | nil => simp [WholeIn, answersOf]
  | cons v more ih =>
    rw [List.cons_append, WholeIn, WholeIn, ih, and_assoc]
    rfl

end DiskCache

/-- At every step of a run, caches that are opened on the same directory, one with copies in memory
and one without, answer the same, run the maker alike and leave the same disk, whatever the
threshold and however much memory is free at each step. Only a read that the disk fails may be
answered from a copy, with the text that the disk holds, and such reads are hits of the one cache
and not counted by the other. This is so as long as no clearing deletes texts and fails, and on a
directory that holds what such caches write, none does where nothing fails after its first call. -/
theorem FastCache.answers_as_disk {f : TextFiles} (ht : f.disk.tree.IsTree) (minFree : Double) :
    (∀ visits : List Visit, f.Tidy → (∀ v ∈ visits, v.1.Spare v.2) →
      DiskCache.WholeIn visits { tier := f }) ∧
    ∀ (before : List Visit) (visit : Visit),
      DiskCache.WholeIn (before ++ [visit]) { tier := f } →
      let opened : FastCache := { tier := { files := { tier := f }, minFree } }
      let fast := (answersOf FastCache.visit before opened).2
      let disk := (answersOf DiskCache.visit before { tier := f }).2
      SameOrCopied disk visit (fast.alone visit) (fast.visit visit).1 (disk.visit visit).1 ∧
        (fast.visit visit).2.tier.files.tier.disk.tree = (disk.visit visit).2.tier.disk.tree ∧
        ∃ reads, (disk.visit visit).2.stats.Exact reads ∧
          (fast.visit visit).2.stats.Exact
            ((opened.aloneIn before ++ fast.alone visit).map (·, true) ++ reads) := by
  refine ⟨fun visits htidy hspare => DiskCache.wholeIn_of_spare htidy hspare, ?_⟩
  intro before visit hwhole opened fast disk
  obtain ⟨hbefore, hvisit, -⟩ := DiskCache.wholeIn_append.1 hwhole
  have hopened : Twins [] opened { tier := f } := by
    refine ⟨⟨.refl f, ht, ?_⟩, [], .start, .start⟩
    intro key text hcopy
    simp [opened] at hcopy
  obtain ⟨halike, htwins⟩ := (hopened.run hbefore).visit hvisit
  obtain ⟨reads, hdisk, hfast⟩ := htwins.stats
  exact ⟨halike, htwins.tier.same.tree, reads, hdisk.exact, hfast.exact⟩

/-! ## Reads that fail -/

deriving instance DecidableEq for TextCache.Supplied
deriving instance DecidableEq for TextAnswer

namespace FastCache

/-- An occasion with much memory free, on which one call fails, or none if its number is zero. -/
def failing (now : Instant) (number : Nat) : Occasion where
  now
  free := ⟨0x3FF0000000000000⟩
  fault call := if call = number then some (.other "Input/output error (os error 5)") else none
  honest call := by
    by_cases h : call = number <;> simp [h]

/-- A text is put, and read twice. The second read fails. -/
def rereadFailing : List Visit :=
  [(failing 1 0, .put ⟨"a", "b"⟩ "text"), (failing 2 0, .get ⟨"a", "b"⟩),
    (failing 3 1, .get ⟨"a", "b"⟩)]

/-- The answers differ where the second read fails, on an empty directory from which nothing is
deleted. -/
theorem answers_reread_failing :
    FastTier.opened.files.tier.Tidy ∧ (∀ v ∈ rereadFailing, v.1.Spare v.2) ∧
      (answersOf FastCache.visit rereadFailing { tier := FastTier.opened }).1 =
        [.written (.ok ()), .found (.ok (some "text")), .found (.ok (some "text"))] ∧
      (answersOf DiskCache.visit rereadFailing { tier := FastTier.opened.files.tier }).1 =
        [.written (.ok ()), .found (.ok (some "text")),
          .found (.error (.io "//a/b" (.other "Input/output error (os error 5)")))] :=
  ⟨TextFiles.tidy_of_empty rfl, by simp [rereadFailing, Occasion.Spare], by decide +kernel⟩

/-- A text is put. A first read of it fails, later ones succeed, a write fails in between, and a
clearing finds no names. -/
def failures : List Visit :=
  [(failing 1 0, .put ⟨"a", "b"⟩ "text"), (failing 2 1, .get ⟨"a", "b"⟩),
    (failing 3 0, .get ⟨"a", "b"⟩), (failing 4 3, .put ⟨"a", "b"⟩ "other"),
    (failing 5 0, .getLines ⟨"a", "b"⟩), (failing 6 1, .clearAll)]

def beforeRead : FastCache :=
  (answersOf FastCache.visit failures { tier := FastTier.opened }).2

def plainBeforeRead : DiskCache :=
  (answersOf DiskCache.visit failures { tier := FastTier.opened.files.tier }).2

/-- A text is read that has a copy, and the disk fails. -/
def failingRead : Visit :=
  (failing 7 1, .getOrInsert ⟨"a", "b"⟩ (.ok "made"))

/-- The copy is answered, and no text is made. The plain cache makes none either. -/
theorem answers_as_disk_failing_read :
    FastTier.opened.files.tier.disk.tree.IsTree ∧
      DiskCache.WholeIn (failures ++ [failingRead]) { tier := FastTier.opened.files.tier } ∧
      (beforeRead.visit failingRead).1 = .supplied ⟨.ok "text", false⟩ ∧
      ∃ e, (plainBeforeRead.visit failingRead).1 = .supplied ⟨.error e, false⟩ := by
  have htidy : FastTier.opened.files.tier.Tidy := TextFiles.tidy_of_empty rfl
  obtain ⟨hspared, hrun⟩ := answers_as_disk htidy.isTree FastTier.opened.minFree
  have hwhole : DiskCache.WholeIn (failures ++ [failingRead])
      { tier := FastTier.opened.files.tier } := by
    apply hspared _ htidy
    simp [failures, failingRead, Occasion.Spare, failing]
  have halone : beforeRead.alone failingRead = ["a"] := by decide +kernel
  have hanswer : (beforeRead.visit failingRead).1 = .supplied ⟨.ok "text", false⟩ := by
    decide +kernel
  have halike : SameOrCopied plainBeforeRead failingRead (beforeRead.alone failingRead)
      (beforeRead.visit failingRead).1 (plainBeforeRead.visit failingRead).1 :=
    (hrun failures failingRead hwhole).1
  rw [halone] at halike
  obtain ⟨text, e, -, herror⟩ := halike.eq_answerRead
  exact ⟨htidy.isTree, hwhole, hanswer, e, herror⟩

end FastCache
end CacheService
