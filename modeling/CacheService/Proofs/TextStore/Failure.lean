import CacheService.Proofs.TextStore.Coherence

/-!
# Copies in memory after an operation that failed

An operation may fail anywhere in its work on the disk. A `put` or a `remove` that fails has changed
no text, but a clearing may have deleted some texts before it failed, and it leaves the copies in
memory alone. So after a failure a copy is the text on the disk, or that of a text which a clearing
has deleted, and the latter is still answered (`copies_after_failure`).

`Thins` says of work on the disk that every file afterwards is as it was or gone. `Aborted` is what
an operation that fails does to both tiers.
-/

namespace CacheService

open FileTree Function

/-! ## Trees with finitely many nodes -/

/-- It is enough to look at the nodes of a tree. -/
theorem FileTree.isTree_of_nodes {t : FileTree}
    (h : ∀ entry ∈ t.nodes.toList, t.content? entry.1.dropLast = some .directory) : t.IsTree := by
  intro path name hsome
  unfold content? at hsome
  rw [node?_of_ne_nil t (by simp), Option.isSome_map] at hsome
  obtain ⟨node, hnode⟩ := Option.isSome_iff_exists.1 hsome
  have hparent := h (path ++ [name], node)
    (Std.ExtTreeMap.mem_toList_iff_getElem?_eq_some.2 hnode)
  rwa [List.dropLast_concat] at hparent

/-! ## Work that deletes files and does nothing else -/

/-- Every file is as it was or gone. -/
structure Disk.Thins (d d' : Disk) : Prop where
  basePath : d'.tree.basePath = d.tree.basePath
  files : ∀ q, d'.tree.file? q = d.tree.file? q ∨ d'.tree.file? q = none

namespace Disk.Thins

variable {d d' d'' : Disk}

theorem of_tree_eq (h : d'.tree = d.tree) : Thins d d' where
  basePath := by rw [h]
  files := by
    intro q
    rw [h]
    exact .inl rfl

theorem trans (h : Thins d d') (h' : Thins d' d'') : Thins d d'' where
  basePath := h'.basePath.trans h.basePath
  files := by
    intro q
    rcases h'.files q with hsame | hgone
    · rw [hsame]
      exact h.files q
    · exact .inr hgone

/-- What is taken away from a tree leaves the files at all other paths. -/
theorem of_update {path : TreePath} (hbase : d'.tree.basePath = d.tree.basePath)
    (h : d'.tree.content? = update d.tree.content? path none) : Thins d d' where
  basePath := hbase
  files := by
    intro q
    by_cases hq : q = path
    · rw [hq]
      exact .inr (file?_at_update h)
    · exact .inl (file?_of_update h hq)

/-- A call thins the tree if it does so when it succeeds. -/
theorem change {f : FileTree → Except IoError FileTree} {path : TreePath}
    (hbase : KeepsBase f)
    (hsuccess : ∀ t', f d.tree = .ok t' → t'.content? = update d.tree.content? path none) :
    Thins d (d.change f).2 := by
  have hchange : d.change f = ((d.change f).1, (d.change f).2) := rfl
  obtain ⟨-, ⟨-, hok⟩ | ⟨e, -, htree, -⟩⟩ := change_cases hchange
  · exact of_update (hbase _ _ hok) (hsuccess _ hok)
  · exact of_tree_eq htree

end Disk.Thins

namespace TextFiles

variable {f f' : TextFiles}

/-- Wherever removing names one by one stops, files are as they were or gone. -/
theorem removeEach_thins {outcome : Outcome Unit} {directory : TreePath} {all : List String}
    (ht : f.disk.tree.IsTree) (h : f.removeEach directory all = (outcome, f')) :
    Disk.Thins f.disk f'.disk := by
  induction all generalizing f with
  | nil =>
    obtain ⟨rfl, rfl⟩ := Prod.mk.inj h
    exact .of_tree_eq rfl
  | cons name rest ih =>
    unfold removeEach at h
    rcases hc : f.call (directory ++ [name])
      (fun d => d.change (removeFile d.now (directory ++ [name]))) with ⟨removed, after⟩
    obtain ⟨hafter, -⟩ := call_eq hc
    have hthins : Disk.Thins f.disk after.disk := by
      rw [hafter]
      exact .change (keepsBase_removeFile _ _) fun _ hok => (removeFile_eq_ok ht hok).2
    have hl := Disk.removeFile_leaves ht f.disk.now (directory ++ [name])
    cases removed with
    | error e =>
      simp only [hc] at h
      obtain ⟨rfl, rfl⟩ := Prod.mk.inj h
      exact hthins
    | ok u =>
      simp only [hc] at h
      have htree : after.disk.tree.IsTree := by
        rw [hafter]
        exact hl.isTree
      exact hthins.trans (ih htree h)

/-- However a clearing ends, it has deleted texts and done nothing else. -/
theorem clear_thins {textType : String} {outcome : Outcome Nat} (ht : f.disk.tree.IsTree)
    (h : f.clear textType = (outcome, f')) : Disk.Thins f.disk f'.disk := by
  unfold clear at h
  cases hp : f.typePath textType with
  | error e =>
    simp only [hp] at h
    obtain ⟨rfl, rfl⟩ := Prod.mk.inj h
    exact .of_tree_eq rfl
  | ok directory =>
    simp only [hp] at h
    have hform := (typePath_eq_ok hp).1
    rcases h1 : f.names directory false with ⟨e | ids, f1⟩ <;>
      obtain ⟨hl1, htree1⟩ := names_leaves ht h1 <;> simp only [h1] at h
    · obtain ⟨rfl, rfl⟩ := Prod.mk.inj h
      exact .of_tree_eq htree1
    have hlisted : Disk.Thins f.disk f1.disk := .of_tree_eq htree1
    rcases h2 : f1.removeEach directory ids with ⟨removed, f2⟩
    have hremoved := hlisted.trans (removeEach_thins hl1.isTree h2)
    cases removed with
    | error e =>
      simp only [h2] at h
      obtain ⟨rfl, rfl⟩ := Prod.mk.inj h
      exact hremoved
    | ok u =>
      simp only [h2] at h
      rcases h3 : f2.callFound directory (fun d => d.change (removeDirectory d.now directory))
        with ⟨found, f3⟩
      rw [h3] at h
      obtain ⟨rfl, rfl⟩ := Prod.mk.inj h
      obtain ⟨hf3, -, -⟩ := callFound_cases h3
      refine hremoved.trans ?_
      rw [hf3]
      exact .change (keepsBase_removeDirectory _ _) fun _ hok =>
        (removeDirectory_eq_ok (by simp [hform]) hok).2

/-- Wherever clearing types one by one stops, files are as they were or gone. -/
theorem clearEach_thins {types : List String} {count : Nat} {outcome : Outcome Nat}
    (ht : f.disk.tree.IsTree) (h : f.clearEach count types = (outcome, f')) :
    f'.toTextLayout = f.toTextLayout ∧ f'.disk.tree.IsTree ∧ Disk.Thins f.disk f'.disk := by
  induction types generalizing f count with
  | nil =>
    obtain ⟨rfl, rfl⟩ := Prod.mk.inj h
    exact ⟨rfl, ht, .of_tree_eq rfl⟩
  | cons textType rest ih =>
    unfold clearEach at h
    rcases hc : f.clear textType with ⟨e | n, after⟩ <;>
      have hl := (clear_spec ht hc).1 <;> have hthins := clear_thins ht hc <;>
      simp only [hc] at h
    · obtain ⟨rfl, rfl⟩ := Prod.mk.inj h
      exact ⟨hl.layout, hl.isTree, hthins⟩
    · obtain ⟨hlayout, htree, hrest⟩ := ih hl.isTree h
      exact ⟨hlayout.trans hl.layout, htree, hthins.trans hrest⟩

theorem clearAll_thins {outcome : Outcome Nat} (ht : f.disk.tree.IsTree)
    (h : f.clearAll = (outcome, f')) :
    f'.toTextLayout = f.toTextLayout ∧ f'.disk.tree.IsTree ∧ Disk.Thins f.disk f'.disk := by
  unfold clearAll textTypes at h
  rcases hn : f.names f.root true with ⟨e | all, f1⟩ <;>
    obtain ⟨hl, htree⟩ := names_leaves ht hn <;> simp only [hn, Except.map] at h
  · obtain ⟨rfl, rfl⟩ := Prod.mk.inj h
    exact ⟨hl.layout, hl.isTree, .of_tree_eq htree⟩
  · obtain ⟨hlayout, hafter, hthins⟩ := clearEach_thins hl.isTree h
    have hlisted : Disk.Thins f.disk f1.disk := .of_tree_eq htree
    exact ⟨hlayout.trans hl.layout, hafter, hlisted.trans hthins⟩

/-- Where files are as they were or gone, so are texts. -/
theorem stored?_of_thins (hlayout : f'.toTextLayout = f.toTextLayout) (ht : f.disk.tree.IsTree)
    (ht' : f'.disk.tree.IsTree) (h : Disk.Thins f.disk f'.disk) (key : TextKey) :
    f'.stored? key = f.stored? key ∨ f'.stored? key = none := by
  unfold stored?
  simp only [entryPath_congr hlayout, textOf_congr hlayout]
  cases f.entryPath key with
  | error e => exact .inl rfl
  | ok path =>
    rcases h.files path with hsame | hgone
    · left
      simp [toOption_read_congr ht ht' h.basePath hsame]
    · right
      cases hr : f'.disk.tree.read path with
      | error e => simp [hr]
      | ok bytes =>
        have hfile := ((read_eq_ok_iff ht').1 hr).2
        rw [hgone] at hfile
        cases hfile

/-- A call about a path where nothing need be fails only if the call itself does. -/
theorem callFound_eq_error {α : Type} {path : TreePath} {act : Disk → Except IoError α × Disk}
    {e : CacheError} (h : f.callFound path act = (.error e, f')) :
    ∃ reason, (act f.disk).1 = .error reason := by
  obtain ⟨-, ho⟩ := call_eq h
  cases hact : (act f.disk).1 with
  | error reason => exact ⟨reason, rfl⟩
  | ok a =>
    have hpair : act f.disk = (.ok a, (act f.disk).2) := by rw [← hact]
    rw [hpair] at ho
    cases ho

/-- A removal that fails has changed no text. -/
theorem stored?_of_remove_error {e : CacheError} {key : TextKey} (ht : f.disk.tree.IsTree)
    (h : f.remove key = (.error e, f')) (k : TextKey) : f'.stored? k = f.stored? k := by
  unfold remove at h
  cases hp : f.entryPath key with
  | error e' =>
    simp only [hp] at h
    obtain ⟨-, rfl⟩ := Prod.mk.inj h
    rfl
  | ok path =>
    simp only [hp] at h
    rcases hc : f.callFound path (fun d => d.change (removeFile d.now path)) with
      ⟨e' | u, after⟩ <;> rw [hc] at h <;> obtain ⟨ho, rfl⟩ := Prod.mk.inj h
    · -- the call itself has failed, and then it has no effect
      obtain ⟨reason, hreason⟩ := callFound_eq_error hc
      obtain ⟨hafter, -, -⟩ := callFound_cases hc
      have hchange : f.disk.change (removeFile f.disk.now path) =
          (.error reason, (f.disk.change (removeFile f.disk.now path)).2) := by
        rw [← hreason]
      obtain ⟨hfault, ⟨hok, -⟩ | ⟨-, -, htree, -⟩⟩ := Disk.change_cases hchange
      · cases hok
      · rw [hafter]
        have hsame : Leaves (fun _ => False) f
            { f with disk := (f.disk.change (removeFile f.disk.now path)).2 } :=
          .of_tree_eq ht rfl htree hfault
        exact hsame.texts k not_false
    · cases ho

end TextFiles

/-! ## Operations that fail -/

namespace FastTier

/-- Whether an operation is a clearing that covers a key. -/
def Operation.clears (key : TextKey) : Operation → Bool
  | .clear textType => key.textType == textType
  | .clearAll => true
  | _ => false

/-- What an operation that fails does to both tiers. -/
structure Aborted (operation : Operation) (t t' : FastTier) : Prop where
  /-- a text is as it was, or a clearing has deleted it -/
  texts : ∀ key, t'.stored? key = t.stored? key ∨
    (operation.clears key = true ∧ t'.stored? key = none)
  /-- a copy is as it was, or it was dropped and no clearing has failed -/
  copies : ∀ key, t'.memory.entries[key]? = t.memory.entries[key]? ∨
    (operation.clears key = false ∧ t'.memory.entries[key]? = none)

variable {t t' : FastTier} {operation : Operation} {free : Double}

/-- Nothing has happened to any text or copy. -/
theorem Aborted.of_texts (h : ∀ key, t'.stored? key = t.stored? key)
    (hmem : t'.memory = t.memory) : Aborted operation t t' where
  texts := fun key => .inl (h key)
  copies := fun key => .inl (by rw [hmem])

theorem aborted_refl (operation : Operation) (t : FastTier) : Aborted operation t t :=
  .of_texts (fun _ => rfl) rfl

/-- A clearing that fails may have deleted texts, and leaves the copies alone. -/
theorem Aborted.of_thins {f : TextFiles}
    (hlayout : f.toTextLayout = t.files.tier.toTextLayout) (ht : t.files.tier.disk.tree.IsTree)
    (ht' : f.disk.tree.IsTree) (hthins : Disk.Thins t.files.tier.disk f.disk)
    (hkeep : ∀ key, operation.clears key = false → f.stored? key = t.stored? key) :
    Aborted operation t { t with files := { t.files with tier := f } } where
  texts := by
    intro key
    cases hclears : operation.clears key with
    | false => exact .inl (hkeep key hclears)
    | true =>
      rcases TextFiles.stored?_of_thins hlayout ht ht' hthins key with hsame | hgone
      · exact .inl hsame
      · exact .inr ⟨rfl, hgone⟩
  copies := fun _ => .inl rfl

/-- A read that fails leaves all texts and all copies. -/
theorem aborted_find {key : TextKey} {e : CacheError} (ht : t.files.tier.disk.tree.IsTree)
    (h : t.find free key = (.error e, t')) : Aborted (.get key) t t' := by
  unfold find beginRead at h
  cases he : t.memory.entries[key]? with
  | some text =>
    simp only [he, endRead] at h
    cases (Prod.mk.inj h).1
  | none =>
    rcases hf : t.files.tier.find key with ⟨e' | _ | text, f⟩ <;>
      have hleaves := (TextFiles.find_spec ht hf).1 <;> simp only [he, hf, endRead] at h <;>
      obtain ⟨ho, rfl⟩ := Prod.mk.inj h
    · exact .of_texts (fun k => hleaves.texts k not_false) rfl
    · cases ho
    · cases ho

/-- A write that fails leaves all texts, and drops the copy of its key. -/
theorem aborted_write {key : TextKey} {text : String} {e : CacheError}
    (ht : t.files.tier.disk.tree.IsTree) (h : t.write key text = (.error e, t')) :
    Aborted (.put key text) t t' := by
  unfold write at h
  rcases hw : t.files.tier.write key text with ⟨outcome, f⟩
  have hleaves := (TextFiles.write_spec ht hw).1
  rw [hw] at h
  obtain ⟨rfl, rfl⟩ := Prod.mk.inj h
  refine ⟨fun k => .inl (hleaves.texts k (by simp)), ?_⟩
  -- the copy of the key is dropped although its text is as it was
  intro k
  dsimp only
  rw [Memory.entries_invalidate]
  by_cases hk : key = k
  · exact .inr ⟨rfl, if_pos hk⟩
  · exact .inl (if_neg hk)

/-- What fails on the disk leaves memory alone. -/
theorem diskThenMemory_eq_error {α : Type} {act : TextFiles → Outcome α × TextFiles}
    {drop : Memory → Memory} {e : CacheError} (h : t.diskThenMemory act drop = (.error e, t')) :
    ∃ f, act t.files.tier = (.error e, f) ∧
      t' = { t with files := { t.files with tier := f } } := by
  unfold diskThenMemory at h
  rcases hact : act t.files.tier with ⟨e' | a, f⟩ <;> simp only [hact] at h <;>
    obtain ⟨ho, rfl⟩ := Prod.mk.inj h
  · exact ⟨f, by rw [Except.error.inj ho], rfl⟩
  · cases ho

/-- A removal that fails has not come to the copies. -/
theorem aborted_remove {key : TextKey} {e : CacheError} (ht : t.files.tier.disk.tree.IsTree)
    (h : t.remove key = (.error e, t')) : Aborted (.remove key) t t' := by
  obtain ⟨f, hf, rfl⟩ := diskThenMemory_eq_error h
  exact .of_texts (TextFiles.stored?_of_remove_error ht hf) rfl

/-- A clearing that fails may have deleted texts, and has not come to the copies. -/
theorem aborted_clear {textType : String} {e : CacheError}
    (ht : t.files.tier.disk.tree.IsTree) (h : t.clear textType = (.error e, t')) :
    Aborted (.clear textType) t t' := by
  obtain ⟨f, hf, rfl⟩ := diskThenMemory_eq_error h
  have hleaves := (TextFiles.clear_spec ht hf).1
  refine .of_thins hleaves.layout ht hleaves.isTree (TextFiles.clear_thins ht hf) ?_
  intro key hclears
  exact hleaves.texts key (by simpa [Operation.clears] using hclears)

theorem aborted_clearAll {e : CacheError} (ht : t.files.tier.disk.tree.IsTree)
    (h : t.clearAll = (.error e, t')) : Aborted .clearAll t t' := by
  obtain ⟨f, hf, rfl⟩ := diskThenMemory_eq_error h
  obtain ⟨hlayout, ht', hthins⟩ := TextFiles.clearAll_thins ht hf
  exact .of_thins hlayout ht ht' hthins nofun

/-- Every operation that fails leaves both tiers in this way. -/
theorem aborted_perform {answer : Answer} (ht : t.files.tier.disk.tree.IsTree)
    (h : t.perform free operation = (answer, t')) (hfailed : answer.failed = true) :
    Aborted operation t t' := by
  cases operation with
  | get key =>
    rcases hf : t.find free key with ⟨e | found, after⟩ <;> simp only [perform, hf] at h <;>
      obtain ⟨rfl, rfl⟩ := Prod.mk.inj h
    · exact aborted_find ht hf
    · cases hfailed
  | put key text =>
    rcases hw : t.write key text with ⟨e | u, after⟩ <;> simp only [perform, hw] at h <;>
      obtain ⟨rfl, rfl⟩ := Prod.mk.inj h
    · exact aborted_write ht hw
    · cases hfailed
  | remove key =>
    rcases hr : t.remove key with ⟨e | existed, after⟩ <;> simp only [perform, hr] at h <;>
      obtain ⟨rfl, rfl⟩ := Prod.mk.inj h
    · exact aborted_remove ht hr
    · cases hfailed
  | clear textType =>
    rcases hc : t.clear textType with ⟨e | n, after⟩ <;> simp only [perform, hc] at h <;>
      obtain ⟨rfl, rfl⟩ := Prod.mk.inj h
    · exact aborted_clear ht hc
    · cases hfailed
  | clearAll =>
    rcases hc : t.clearAll with ⟨e | n, after⟩ <;> simp only [perform, hc] at h <;>
      obtain ⟨rfl, rfl⟩ := Prod.mk.inj h
    · exact aborted_clearAll ht hc
    · cases hfailed

end FastTier

/-! ## Caches -/

namespace FastCache

open FastTier (Answer Aborted)

/-- What an operation answers and leaves. The names in a `get` or a `put` are checked first. -/
def perform (free : Double) (c : FastCache) : FastTier.Operation → Answer × FastCache
  | .get key =>
    let (outcome, c) := TextCache.get (FastTier.tier free) key c
    (.found outcome, c)
  | .put key text =>
    let (outcome, c) := TextCache.put (FastTier.tier free) key text c
    (.written outcome, c)
  | .remove key =>
    let (outcome, c) := TextCache.onTier (FastTier.remove key) c
    (.removed outcome, c)
  | .clear textType =>
    let (outcome, c) := TextCache.onTier (FastTier.clear textType) c
    (.cleared outcome, c)
  | .clearAll =>
    let (outcome, c) := TextCache.onTier FastTier.clearAll c
    (.cleared outcome, c)

/-- Every copy is the text on the disk. -/
def Coherent (c : FastCache) : Prop :=
  ∀ key text, c.tier.memory.entries[key]? = some text → c.tier.stored? key = some text

variable {c : FastCache} {free : Double} {operation : FastTier.Operation}

/-- An operation whose names are refused does nothing, and any other does what its tier does. -/
theorem perform_cases (free : Double) (c : FastCache) (operation : FastTier.Operation) :
    (c.perform free operation).2 = c ∨
      c.tier.perform free operation =
        ((c.perform free operation).1, (c.perform free operation).2.tier) := by
  cases operation with
  | get key =>
    cases hkey : TextName.checkKey key with
    | error e => simp [perform, TextCache.get, hkey]
    | ok u =>
      right
      simp only [perform, TextCache.get, hkey, FastTier.tier, FastTier.perform]
      rcases c.tier.find free key with ⟨e | found, t⟩ <;> rfl
  | put key text =>
    cases hkey : TextName.checkKey key with
    | error e => simp [perform, TextCache.put, hkey]
    | ok u =>
      right
      simp only [perform, TextCache.put, hkey]
      rfl
  | remove key => exact .inr rfl
  | clear textType => exact .inr rfl
  | clearAll => exact .inr rfl

/-- Whether it fails by its names or later, an operation leaves both tiers in this way. -/
theorem aborted_perform (ht : c.tier.files.tier.disk.tree.IsTree)
    (hfailed : (c.perform free operation).1.failed = true) :
    Aborted operation c.tier (c.perform free operation).2.tier := by
  rcases perform_cases free c operation with hsame | hperform
  · rw [hsame]
    exact FastTier.aborted_refl operation c.tier
  · exact FastTier.aborted_perform ht hperform hfailed

/-- A key under which the disk holds a text has names that are not refused. -/
theorem checkKey_of_stored? {f : TextFiles} {key : TextKey} {text : String}
    (h : f.stored? key = some text) : TextName.checkKey key = .ok () := by
  unfold TextFiles.stored? at h
  cases hp : f.entryPath key with
  | error e => simp [hp] at h
  | ok path =>
    obtain ⟨u, hid, hrest⟩ := Outcome.bind_eq_ok_iff.1 hp
    obtain ⟨directory, hdirectory, -⟩ := Outcome.bind_eq_ok_iff.1 hrest
    obtain ⟨u', hchecked, -⟩ := Outcome.bind_eq_ok_iff.1 hdirectory
    obtain ⟨u'', htype, -⟩ := Outcome.bind_eq_ok_iff.1 hchecked
    exact Outcome.bind_eq_ok_iff.2 ⟨u'', htype, hid⟩

/-- A `get` answers the copy if there is one. -/
theorem perform_get_of_copy {key : TextKey} {text : String} (free : Double)
    (hkey : TextName.checkKey key = .ok ()) (h : c.tier.memory.entries[key]? = some text) :
    (c.perform free (.get key)).1 = .found (.ok (some text)) := by
  have hfind : c.tier.find free key = (.ok (some text), c.tier) := by
    simp only [FastTier.find, FastTier.beginRead, h, FastTier.endRead]
  simp only [perform, TextCache.get, hkey, FastTier.tier, hfind]

/-- If every copy was the text on the disk before an operation that failed, then afterwards every
copy is the text on the disk, or that of a text which the operation, a clearing, has deleted before
it failed. So all copies are as they should be if and only if none of the deleted texts had a copy,
and what has a copy is answered, deleted or not. -/
theorem copies_after_failure (ht : c.tier.files.tier.disk.tree.IsTree) (hc : c.Coherent)
    (free : Double) (operation : FastTier.Operation)
    (hfailed : (c.perform free operation).1.failed = true) :
    (∀ key text, (c.perform free operation).2.tier.memory.entries[key]? = some text →
      (c.perform free operation).2.tier.stored? key = some text ∨
        (operation.clears key = true ∧
          (c.perform free operation).2.tier.stored? key = none)) ∧
    ((c.perform free operation).2.Coherent ↔
      ∀ key, c.tier.stored? key ≠ none →
        (c.perform free operation).2.tier.stored? key = none →
        c.tier.memory.entries[key]? = none) ∧
    (∀ key text free',
      (c.perform free operation).2.tier.memory.entries[key]? = some text →
      ((c.perform free operation).2.perform free' (.get key)).1 = .found (.ok (some text))) := by
  have haborted := aborted_perform ht hfailed
  generalize (c.perform free operation).2 = c' at haborted
  -- a copy that is left was there before
  have hbefore : ∀ (key : TextKey) (text : String), c'.tier.memory.entries[key]? = some text →
      c.tier.memory.entries[key]? = some text := by
    intro key text hcopy
    rcases haborted.copies key with hsame | ⟨-, hgone⟩
    · exact hsame.symm.trans hcopy
    · rw [hgone] at hcopy
      cases hcopy
  refine ⟨?_, ⟨?_, ?_⟩, ?_⟩
  · intro key text hcopy
    have hstored := hc key text (hbefore key text hcopy)
    rcases haborted.texts key with hsame | hdeleted
    · exact .inl (hsame.trans hstored)
    · exact .inr hdeleted
  · intro hc' key hstored hgone
    rcases haborted.texts key with hsame | ⟨hclears, -⟩
    · exact absurd (hsame.symm.trans hgone) hstored
    · -- a clearing that fails has dropped no copy
      rcases haborted.copies key with hcopies | ⟨hother, -⟩
      · cases hcopy : c.tier.memory.entries[key]? with
        | none => rfl
        | some text =>
          have hafter := hc' key text (hcopies.trans hcopy)
          rw [hgone] at hafter
          cases hafter
      · rw [hclears] at hother
        cases hother
  · intro hdeleted key text hcopy
    have hstored := hc key text (hbefore key text hcopy)
    rcases haborted.texts key with hsame | ⟨-, hgone⟩
    · exact hsame.trans hstored
    · have hnone := hdeleted key (by simp [hstored]) hgone
      rw [hbefore key text hcopy] at hnone
      cases hnone
  · intro key text free' hcopy
    have hkey := checkKey_of_stored? (hc key text (hbefore key text hcopy))
    exact perform_get_of_copy free' hkey hcopy

/-- A text was put and read, so that it has a copy, and a directory that is no text was made beside
its file. -/
def besideDirectory : FastCache :=
  let c : FastCache := { tier := FastTier.opened }
  let c := (c.perform ⟨0⟩ (.put ⟨"a", "b"⟩ "text")).2
  let c := (c.perform ⟨0x3FF0000000000000⟩ (.get ⟨"a", "b"⟩)).2
  (TextCache.onTier (FastTier.onFiles fun f =>
    ((), { f with disk := (f.disk.makeDirectories ["a", "other"]).2 })) c).2

theorem isTree_besideDirectory : besideDirectory.tier.files.tier.disk.tree.IsTree := by
  apply isTree_of_nodes
  decide +kernel

theorem coherent_besideDirectory : besideDirectory.Coherent := by
  have hall : ∀ entry ∈ besideDirectory.tier.memory.entries.toList,
      besideDirectory.tier.stored? entry.1 = some entry.2 := by
    decide +kernel
  intro key text hcopy
  exact hall (key, text) (Std.ExtTreeMap.mem_toList_iff_getElem?_eq_some.2 hcopy)

/-- The directory of the type is not empty, so the clearing fails at its end. -/
theorem clear_besideDirectory_failed :
    (besideDirectory.perform ⟨0⟩ (.clear "a")).1.failed = true := by
  decide +kernel

theorem copy_besideDirectory :
    (besideDirectory.perform ⟨0⟩ (.clear "a")).2.tier.memory.entries[(⟨"a", "b"⟩ : TextKey)]? =
      some "text" := by
  decide +kernel

/-- The clearing deletes the text, fails at the directory, and the text is still answered. -/
theorem copies_after_failure_beside_directory :
    besideDirectory.tier.files.tier.disk.tree.IsTree ∧ besideDirectory.Coherent ∧
      (besideDirectory.perform ⟨0⟩ (.clear "a")).1.failed = true ∧
      ((besideDirectory.perform ⟨0⟩ (.clear "a")).2.perform ⟨0⟩ (.get ⟨"a", "b"⟩)).1 =
        .found (.ok (some "text")) :=
  ⟨isTree_besideDirectory, coherent_besideDirectory, clear_besideDirectory_failed,
    (copies_after_failure isTree_besideDirectory coherent_besideDirectory ⟨0⟩ (.clear "a")
      clear_besideDirectory_failed).2.2 ⟨"a", "b"⟩ "text" ⟨0⟩ copy_besideDirectory⟩

/-- A clearing that fails can leave the copy of a text that it has deleted. -/
theorem not_coherent_after_clear :
    besideDirectory.tier.files.tier.disk.tree.IsTree ∧ besideDirectory.Coherent ∧
      (besideDirectory.perform ⟨0⟩ (.clear "a")).1.failed = true ∧
      (besideDirectory.perform ⟨0⟩ (.clear "a")).2.tier.stored? ⟨"a", "b"⟩ = none ∧
      ¬ (besideDirectory.perform ⟨0⟩ (.clear "a")).2.Coherent := by
  have hgone : (besideDirectory.perform ⟨0⟩ (.clear "a")).2.tier.stored? ⟨"a", "b"⟩ = none := by
    decide +kernel
  refine ⟨isTree_besideDirectory, coherent_besideDirectory, clear_besideDirectory_failed, hgone, ?_⟩
  intro hcoherent
  have hstored := hcoherent ⟨"a", "b"⟩ "text" copy_besideDirectory
  rw [hgone] at hstored
  cases hstored

end FastCache
end CacheService
