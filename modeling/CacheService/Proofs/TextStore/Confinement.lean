import CacheService.Proofs.TextStore.Memory
import CacheService.Proofs.TextStore.Names
import CacheService.Proofs.TextStore.UnixPath

/-!
# Texts stay where they belong

Whatever has been asked of a cache before, a request with bad names is refused, and nothing that a
caller could notice has changed then (`names_confined`). A text with good names has its file right
below the directory of its type, and no other text has it.

A copy in memory is only made of a text that the disk has found. So none has bad names, and a read
of the reserved type cannot be answered by one (`FastTier.confined_step`).
-/

namespace CacheService

open TextName

/-! ## Texts in files -/

/-- Texts in files are not touched under bad names. -/
theorem TextFiles.service_guards : TextFiles.service.Guards (fun _ => True) Eq where
  refl _ := rfl
  find_refuses key f _ hbad := (guards_find key).refuses hbad f
  find_accepts key f hgood := (guards_find key).accepts hgood f
  write_refuses _ text f _ hbad := write_refuses hbad text f
  write_accepts _ text f hgood := write_accepts hgood text f
  work_refuses w f _ hbad := by
    cases w with
    | remove key => exact (guards_remove key).refuses hbad f
    | clear textType => exact (guards_clear textType).refuses hbad f
    | ids textType => exact (guards_ids textType).refuses hbad f
    | age key => exact (guards_age key).refuses hbad f
    | modified key => exact (guards_modified key).refuses hbad f
    | clearAll | textTypes => exact False.elim hbad
  work_accepts w f hw hgood := by
    cases w with
    | remove key => exact (guards_remove key).accepts hgood f
    | clear textType => exact (guards_clear textType).accepts hgood f
    | clearAll => exact absurd rfl hw
    | ids textType => exact (guards_ids textType).accepts hgood f
    | textTypes => exact guards_textTypes.accepts hgood f
    | age key => exact (guards_age key).accepts hgood f
    | modified key => exact (guards_modified key).accepts hgood f

/-! ## Copies in memory -/

namespace FastTier

/-- No text with bad names has a copy. -/
def Confined (t : FastTier) : Prop :=
  ∀ (key : TextKey) (text : String), t.memory.entries[key]? = some text → ¬ key.Refused

/-- A text that is about to be copied has good names. -/
def Stage.Confined : Stage → Prop
  | .asking key _ _ => ¬ key.Refused
  | _ => True

/-- The same files and the same copies. Versions may be different. -/
structure Alike (t' t : FastTier) : Prop where
  files : t'.files = t.files
  entries : t'.memory.entries = t.memory.entries
  minFree : t'.minFree = t.minFree

theorem Alike.refl (t : FastTier) : Alike t t :=
  ⟨rfl, rfl, rfl⟩

variable {t : FastTier} {key : TextKey}

theorem Confined.no_copy (h : t.Confined) (hbad : key.Refused) :
    t.memory.entries[key]? = none := by
  cases he : t.memory.entries[key]? with
  | none => rfl
  | some text => exact absurd hbad (h key text he)

/-- Dropping copies leaves fewer. -/
theorem Confined.drop (h : t.Confined) (drop : Drop) :
    Confined { t with memory := drop.apply t.memory } := by
  intro key text he
  rw [Memory.entries_apply] at he
  split at he
  · cases he
  · exact h key text he

/-- Memory alone decides. -/
theorem Confined.of_entries_eq {t' : FastTier} (h : t.Confined)
    (hentries : t'.memory.entries = t.memory.entries) : t'.Confined := by
  intro key text he
  rw [hentries] at he
  exact h key text he

/-- After work on the disk no text is about to be copied. -/
theorem confined_afterDisk {α : Type} (drop : Drop) (answer : Outcome α → Answer)
    (outcome : Outcome α) : (afterDisk drop answer outcome).Confined := by
  cases outcome <;> trivial

/-- A step copies no text with bad names. -/
theorem confined_step (free : Double) (g : Stage) (t : FastTier) (hg : g.Confined)
    (h : t.Confined) : (step free g t).1.Confined ∧ (step free g t).2.Confined := by
  cases g with
  | beginning operation =>
    cases operation with
    | get key =>
      simp only [step]
      split <;> exact ⟨trivial, h⟩
    | put key text => exact ⟨trivial, h.of_entries_eq rfl⟩
    | remove key => exact ⟨confined_afterDisk _ _ _, h.of_entries_eq rfl⟩
    | clear textType => exact ⟨confined_afterDisk _ _ _, h.of_entries_eq rfl⟩
    | clearAll => exact ⟨confined_afterDisk _ _ _, h.of_entries_eq rfl⟩
  | reading key stamp =>
    -- reading the disk leaves memory alone
    have hsame : (t.onFiles fun f => f.find key).2.memory.entries = t.memory.entries := rfl
    have hfound : (t.onFiles fun f => f.find key).1 = (t.files.tier.find key).1 := rfl
    simp only [step]
    split
    · next text t' hread =>
      rw [hread] at hsame hfound
      refine ⟨fun hbad => ?_, h.of_entries_eq hsame⟩
      -- the disk does not find texts with bad names
      obtain ⟨message, hinvalid⟩ := ((TextFiles.guards_find key).refuses hbad t.files.tier).1
      rw [hinvalid] at hfound
      cases hfound
    · next t' _ hread =>
      rw [hread] at hsame
      exact ⟨trivial, h.of_entries_eq hsame⟩
  | asking key text stamp =>
    refine ⟨trivial, ?_⟩
    intro k copy hk
    simp only [step, endRead] at hk
    split at hk
    · -- the text that was read has a copy now
      rcases Memory.entries_promote hk with hk | ⟨rfl, -, -⟩
      · exact h k copy hk
      · exact hg
    · exact h k copy hk
  | dropping drop answer => exact ⟨trivial, h.drop drop⟩
  | returned answer => exact ⟨trivial, h⟩

/-- The steps of a request copy no text with bad names. -/
theorem inSteps_keeps_confined :
    inSteps.Keeps Confined Stage.Confined Stage.Confined (Sum.elim Stage.Confined fun _ => True) :=
  inSteps_keeps (fun _ => trivial) confined_step fun _ _ h => h.of_entries_eq rfl

/-! ## Requests to both tiers -/

/-- Bad names are refused before any copy is dropped. -/
theorem diskThenMemory_refuses {α : Type} {bad : Prop} {act : TextFiles → Outcome α × TextFiles}
    (hact : TextFiles.Guards bad act) (hbad : bad) (drop : Memory → Memory) (t : FastTier) :
    Invalid (t.diskThenMemory act drop).1 ∧ Alike (t.diskThenMemory act drop).2 t := by
  obtain ⟨⟨message, hfailed⟩, hsame⟩ := hact.refuses hbad t.files.tier
  unfold diskThenMemory
  rcases hr : act t.files.tier with ⟨outcome, files⟩
  rw [hr] at hfailed hsame
  subst hfailed hsame
  exact ⟨⟨message, rfl⟩, .refl t⟩

theorem diskThenMemory_accepts {α : Type} {bad : Prop} {act : TextFiles → Outcome α × TextFiles}
    (hact : TextFiles.Guards bad act) (hgood : ¬ bad) (drop : Memory → Memory) (t : FastTier) :
    ¬ Invalid (t.diskThenMemory act drop).1 := by
  have haccepted := hact.accepts hgood t.files.tier
  unfold diskThenMemory
  rcases hr : act t.files.tier with ⟨e | a, files⟩ <;> rw [hr] at haccepted
  · exact haccepted
  · exact not_invalid_ok a

theorem onFiles_refuses {α : Type} {bad : Prop} {act : TextFiles → Outcome α × TextFiles}
    (hact : TextFiles.Guards bad act) (hbad : bad) (t : FastTier) :
    Invalid (t.onFiles act).1 ∧ Alike (t.onFiles act).2 t := by
  obtain ⟨hinvalid, hsame⟩ := hact.refuses hbad t.files.tier
  have hfiles : (t.onFiles act).2.files = { t.files with tier := (act t.files.tier).2 } := rfl
  exact ⟨hinvalid, by rw [hfiles, hsame], rfl, rfl⟩

/-- Under bad names there is no copy, and the disk refuses them. -/
theorem find_refuses (free : Double) (ht : t.Confined) (hbad : key.Refused) :
    Invalid (t.find free key).1 ∧ Alike (t.find free key).2 t := by
  obtain ⟨⟨message, hfailed⟩, hsame⟩ := (TextFiles.guards_find key).refuses hbad t.files.tier
  rcases hr : t.files.tier.find key with ⟨outcome, files⟩
  rw [hr] at hfailed hsame
  subst hfailed hsame
  -- there is no copy, so the disk is asked, which refuses
  have hfind : t.find free key = (.error (.invalidTextType message), t) := by
    unfold find beginRead
    rw [ht.no_copy hbad, hr]
    rfl
  rw [hfind]
  exact ⟨⟨message, rfl⟩, .refl t⟩

theorem find_accepts (free : Double) (t : FastTier) (hgood : ¬ key.Refused) :
    ¬ Invalid (t.find free key).1 := by
  have haccepted := (TextFiles.guards_find key).accepts hgood t.files.tier
  unfold find beginRead
  cases t.memory.entries[key]? with
  | some text => exact not_invalid_ok _
  | none =>
    rcases hr : t.files.tier.find key with ⟨e | _ | text, files⟩ <;>
      rw [hr] at haccepted
    · exact haccepted
    · exact not_invalid_ok _
    · exact not_invalid_ok _

/-- A write under a bad type is refused, though its key may get another version. -/
theorem write_refuses (ht : t.Confined) (hbad : BadType key.textType) (text : String) :
    Invalid (t.write key text).1 ∧ Alike (t.write key text).2 t := by
  obtain ⟨hinvalid, hsame⟩ := TextFiles.write_refuses hbad text t.files.tier
  refine ⟨hinvalid, ?_, ?_, rfl⟩
  · have hfiles : (t.write key text).2.files =
        { t.files with tier := (t.files.tier.write key text).2 } := rfl
    rw [hfiles, hsame]
  · -- the copy is dropped in any case, but there is none
    apply Std.ExtTreeMap.ext_getElem?
    intro k
    unfold write
    rw [Memory.entries_invalidate]
    split
    · next hk => rw [← hk, ht.no_copy (.inl hbad)]
    · rfl

/-- Texts with copies differ in versions at most after bad names. -/
theorem service_guards (free : Double) : (service free).Guards Confined Alike where
  refl := .refl
  find_refuses _ _ ht hbad := find_refuses free ht hbad
  find_accepts _ t hgood := find_accepts free t hgood
  write_refuses _ text _ ht hbad := write_refuses ht hbad text
  write_accepts _ text t hgood := TextFiles.write_accepts hgood text t.files.tier
  work_refuses w t _ hbad := by
    cases w with
    | remove key =>
      exact diskThenMemory_refuses (TextFiles.guards_remove key) hbad (fun m => m.invalidate key) t
    | clear textType =>
      exact diskThenMemory_refuses (TextFiles.guards_clear textType) hbad
        (fun m => m.clearWhere fun key => key.textType == textType) t
    | ids textType => exact onFiles_refuses (TextFiles.guards_ids textType) hbad t
    | age key => exact onFiles_refuses (TextFiles.guards_age key) hbad t
    | modified key => exact onFiles_refuses (TextFiles.guards_modified key) hbad t
    | clearAll | textTypes => exact False.elim hbad
  work_accepts w t hw hgood := by
    cases w with
    | remove key =>
      exact diskThenMemory_accepts (TextFiles.guards_remove key) hgood (fun m => m.invalidate key) t
    | clear textType =>
      exact diskThenMemory_accepts (TextFiles.guards_clear textType) hgood
        (fun m => m.clearWhere fun key => key.textType == textType) t
    | clearAll => exact absurd rfl hw
    | ids textType => exact (TextFiles.guards_ids textType).accepts hgood t.files.tier
    | textTypes => exact TextFiles.guards_textTypes.accepts hgood t.files.tier
    | age key => exact (TextFiles.guards_age key).accepts hgood t.files.tier
    | modified key => exact (TextFiles.guards_modified key).accepts hgood t.files.tier

end FastTier

/-! ## Files of texts -/

/-- A name that is not refused is one part of a path. -/
theorem TextName.plain_of_good {value : String} (h : ¬ Bad value) : UnixPath.Plain value where
  nonempty hvalue := h (.inl hvalue)
  dot hvalue := h (.inr (.inl hvalue))
  dots hvalue := h (.inr (.inr (.inl hvalue)))
  slash hmem := h (.inr (.inr (.inr (.inl hmem))))

namespace TextFiles

open UnixPath (parts parts_join Plain)

/-- A path below the base of the disk, as Unix has it. -/
def unixPath (f : TextFiles) (path : TreePath) : String :=
  path.foldl UnixPath.join f.base

/-- A plain name below a path is one part more. -/
theorem parts_concat (f : TextFiles) (path : TreePath) {name : String} (h : Plain name) :
    parts (f.unixPath (path ++ [name])) = parts (f.unixPath path) ++ [.name name] := by
  rw [unixPath, List.foldl_append]
  exact parts_join (f.unixPath path) h

theorem plain_staging : Plain TextName.staging := by
  constructor <;> decide

/-- The file of a text is two parts below the root, its type and its id. -/
theorem parts_entryPath {f : TextFiles} {key : TextKey} {path : TreePath}
    (h : f.entryPath key = .ok path) :
    ¬ key.Refused ∧ parts (f.unixPath path) =
      parts (f.unixPath f.root) ++ [.name key.textType, .name key.id] := by
  obtain ⟨-, message, herror⟩ | ⟨hgood, hok⟩ := f.judges_entryPath key
  · rw [herror] at h
    cases h
  · rw [hok] at h
    obtain rfl := Except.ok.inj h
    obtain ⟨htype, hid⟩ := not_or.1 hgood
    refine ⟨hgood, ?_⟩
    rw [f.parts_concat _ (plain_of_good hid), f.parts_concat _ (plain_of_good (not_or.1 htype).1),
      List.append_assoc]
    rfl

end TextFiles

open UnixPath (parts)

/-- A cache of texts in files, at any time, and one with copies in memory, after whatever was asked
of it and done to its files, fail for the names in a request exactly if these are bad, or if they
have run a maker that fails so; and then they have run no maker, and files, copies and counters are
as before. The exception is a request to clear all types, which names none. Names that are not bad,
and no others, make a path: the root and two parts more, the type and the id. So it is below the
root and not in the staging directory, and the names can be told from it. -/
theorem names_confined :
    (∀ (c : DiskCache) (request : TextRequest), request ≠ .clearAll →
      Guarded Eq request c (c.answer TextFiles.service request)) ∧
    (∀ (files : DiskCache) (minFree : Double) (moves : List TextSteps.Move) (free : Double)
        (request : TextRequest), request ≠ .clearAll →
      Guarded FastTier.Alike request (FastTier.inSteps.after { files, minFree } moves).cache
        ((FastTier.inSteps.after { files, minFree } moves).cache.answer (FastTier.service free)
          request)) ∧
    (∀ (f : TextFiles) (key : TextKey), (∃ path, f.entryPath key = .ok path) ↔ ¬ key.Refused) ∧
    ∀ (f : TextFiles) (key : TextKey) (path : TreePath), f.entryPath key = .ok path →
      parts (f.unixPath path) =
        parts (f.unixPath f.root) ++ [.name key.textType, .name key.id] ∧
      ¬ parts (f.unixPath f.stagingPath) <+: parts (f.unixPath path) ∧
      ∀ (key' : TextKey) (path' : TreePath), f.entryPath key' = .ok path' →
        parts (f.unixPath path') = parts (f.unixPath path) → key' = key := by
  refine ⟨?_, ?_, ?_, ?_⟩
  · intro c request hrequest
    exact TextFiles.service_guards.answer trivial hrequest
  · intro files minFree moves free request hrequest
    -- nothing has a copy at first, and no step copies a text with bad names
    have hempty : FastTier.Confined { files, minFree } := by
      intro key text hcopy
      simp at hcopy
    have hconfined := (FastTier.inSteps_keeps_confined.after
      (fun _ _ h => h.of_entries_eq rfl) hempty moves).1
    exact (FastTier.service_guards free).answer hconfined hrequest
  · intro f key
    constructor
    · rintro ⟨path, hpath⟩
      exact (TextFiles.parts_entryPath hpath).1
    · intro hgood
      obtain ⟨hbad, -⟩ | ⟨-, hok⟩ := f.judges_entryPath key
      · exact absurd hbad hgood
      · exact ⟨_, hok⟩
  · intro f key path hpath
    obtain ⟨hgood, hparts⟩ := TextFiles.parts_entryPath hpath
    refine ⟨hparts, ?_, ?_⟩
    · -- the part after the root is the type, which is not the reserved one
      have hstaging : parts (f.unixPath f.stagingPath) =
          parts (f.unixPath f.root) ++ [.name staging] :=
        f.parts_concat f.root TextFiles.plain_staging
      rw [hstaging, hparts, List.prefix_append_right_inj]
      intro hprefix
      obtain ⟨hname, -⟩ := List.cons_prefix_cons.1 hprefix
      injection hname with htype
      exact hgood (.inl (.inr htype.symm))
    · -- the last two parts of the path are the key
      intro key' path' hpath' hsame
      rw [(TextFiles.parts_entryPath hpath').2, hparts, List.append_cancel_left_eq] at hsame
      cases key
      cases key'
      simp only [List.cons.injEq, UnixPath.Part.name.injEq, and_true] at hsame
      obtain ⟨rfl, rfl⟩ := hsame
      rfl

end CacheService
