import CacheService.Proofs.TextStore.FileTree
import CacheService.TextStore.Disk

/-!
# What calls of a disk leave alone

A call either fails and leaves the tree as it was, or does what the file tree says. For work made of
several calls, `Leaves` names the paths whose files may be different afterwards; the files at all
other paths are the same, and the tree is still a tree.
-/

namespace CacheService
namespace Disk

open FileTree Function

/-- No call says that something is missing which is there. Calls may fail in all other ways. -/
def Honest (d : Disk) : Prop :=
  ∀ call, d.fault call ≠ some .notFound

/-- Work on a disk that leaves a tree, and the files at all paths but the touched ones. -/
structure Leaves (touched : TreePath → Prop) (d d' : Disk) : Prop where
  isTree : d'.tree.IsTree
  basePath : d'.tree.basePath = d.tree.basePath
  fault : d'.fault = d.fault
  files : ∀ q, ¬ touched q → d'.tree.file? q = d.tree.file? q

namespace Leaves

variable {touched touched' : TreePath → Prop} {d d' d'' : Disk}

theorem of_tree_eq (ht : d.tree.IsTree) (htree : d'.tree = d.tree) (hf : d'.fault = d.fault) :
    Leaves touched d d' where
  isTree := by rwa [htree]
  basePath := by rw [htree]
  fault := hf
  files := by
    intro q _
    rw [htree]

theorem trans (h : Leaves touched d d') (h' : Leaves touched d' d'') : Leaves touched d d'' where
  isTree := h'.isTree
  basePath := h'.basePath.trans h.basePath
  fault := h'.fault.trans h.fault
  files := by
    intro q hq
    rw [h'.files q hq, h.files q hq]

theorem mono (h : Leaves touched d d') (hsub : ∀ q, touched q → touched' q) :
    Leaves touched' d d' where
  isTree := h.isTree
  basePath := h.basePath
  fault := h.fault
  files := by
    intro q hq
    exact h.files q fun ht => hq (hsub q ht)

end Leaves

/-! ## Single calls -/

variable {α : Type} {d d' : Disk} {touched : TreePath → Prop}

@[simp] theorem tree_look (d : Disk) (f : FileTree → Except IoError α) :
    (d.look f).2.tree = d.tree :=
  rfl

@[simp] theorem fault_look (d : Disk) (f : FileTree → Except IoError α) :
    (d.look f).2.fault = d.fault :=
  rfl

/-- An honest disk says that something is missing only if the tree says so. -/
theorem look_eq_notFound (hd : d.Honest) {f : FileTree → Except IoError α}
    (h : (d.look f).1 = .error .notFound) : f d.tree = .error .notFound := by
  unfold look at h
  cases hc : d.fault (d.calls + 1) with
  | some e =>
    -- the call failed by itself, and then an honest disk gives another reason
    have he : e = .notFound := by simpa [hc] using h
    exact absurd (by rw [hc, he]) (hd (d.calls + 1))
  | none => simpa [hc] using h

theorem look_eq_ok {f : FileTree → Except IoError α} {a : α} (h : (d.look f).1 = .ok a) :
    f d.tree = .ok a := by
  unfold look at h
  cases hc : d.fault (d.calls + 1) with
  | some e => simp [hc] at h
  | none => simpa [hc] using h

/-- A call either succeeds as the tree says, or leaves the tree as it was. -/
theorem change_cases {f : FileTree → Except IoError FileTree} {outcome : Except IoError Unit}
    (h : d.change f = (outcome, d')) :
    d'.fault = d.fault ∧
      ((outcome = .ok () ∧ f d.tree = .ok d'.tree) ∨
        ∃ e, outcome = .error e ∧ d'.tree = d.tree ∧
          (d.Honest → e = .notFound → f d.tree = .error .notFound)) := by
  unfold change at h
  cases hl : d.look f with
  | mk o after =>
    have htree : after.tree = d.tree := by rw [← tree_look d f, hl]
    have hfault : after.fault = d.fault := by rw [← fault_look d f, hl]
    cases o with
    | ok tree =>
      have hok : f d.tree = .ok tree := look_eq_ok (by rw [hl])
      simp only [hl, Prod.mk.injEq] at h
      obtain ⟨rfl, rfl⟩ := h
      exact ⟨hfault, Or.inl ⟨rfl, hok⟩⟩
    | error e =>
      simp only [hl, Prod.mk.injEq] at h
      obtain ⟨rfl, rfl⟩ := h
      refine ⟨hfault, Or.inr ⟨e, rfl, htree, ?_⟩⟩
      rintro hd rfl
      exact look_eq_notFound hd (by rw [hl])

theorem change_eq_ok {f : FileTree → Except IoError FileTree} (h : d.change f = (.ok (), d')) :
    f d.tree = .ok d'.tree := by
  obtain ⟨-, ⟨-, hok⟩ | ⟨e, he, -⟩⟩ := change_cases h
  · exact hok
  · cases he

/-- What a call leaves alone is decided by what the tree leaves alone when it succeeds. -/
theorem change_leaves {f : FileTree → Except IoError FileTree} (ht : d.tree.IsTree)
    (hbase : KeepsBase f) (hsuccess : ∀ t', f d.tree = .ok t' →
      t'.IsTree ∧ ∀ q, ¬ touched q → t'.file? q = d.tree.file? q) :
    Leaves touched d (d.change f).2 := by
  have hchange : d.change f = ((d.change f).1, (d.change f).2) := rfl
  obtain ⟨hfault, ⟨-, hok⟩ | ⟨e, -, htree, -⟩⟩ := change_cases hchange
  · obtain ⟨h1, h2⟩ := hsuccess _ hok
    exact ⟨h1, hbase _ _ hok, hfault, h2⟩
  · exact Leaves.of_tree_eq ht htree hfault

/-! ## Making directories -/

/-- Making a directory changes no file. -/
theorem makeDirectory_leaves (ht : d.tree.IsTree) (now : Instant) (path : TreePath) :
    Leaves touched d (d.change (makeDirectory now path)).2 := by
  apply change_leaves ht (keepsBase_makeDirectory now path)
  intro t' h
  rcases List.eq_nil_or_concat path with rfl | ⟨dir, name, rfl⟩
  · -- the base is there already
    obtain ⟨found, hentry, h⟩ := Outcome.bind_eq_ok_iff.1 h
    rw [entry_nil hentry] at h
    cases h
  · rw [List.concat_eq_append] at h
    obtain ⟨-, hnone, hcontent⟩ := makeDirectory_eq_ok h
    refine ⟨ht.makeDirectory h, ?_⟩
    intro q _
    by_cases hq : q = dir ++ [name]
    · -- there was no file before, and a directory is none
      rw [hq, file?_at_update hcontent]
      simp [file?, hnone, Content.bytes?]
    · exact file?_of_update hcontent hq

/-- To make a directory that may be there leaves all files. -/
theorem ensureDirectory_leaves (ht : d.tree.IsTree) (path : TreePath) :
    Leaves touched d (d.ensureDirectory path).2 := by
  have h : Leaves touched d (d.change (makeDirectory d.now path)).2 :=
    makeDirectory_leaves ht d.now path
  unfold ensureDirectory
  rcases hc : d.change (makeDirectory d.now path) with ⟨outcome, d'⟩
  rw [hc] at h
  cases outcome with
  | ok u => exact h
  | error e =>
    dsimp only
    split <;> exact h

/-- Making a directory below others: the ones above are made if it turns out that one is missing. -/
theorem makeUpwards_cons (d : Disk) (name : String) (above : List String) :
    d.makeUpwards (name :: above) =
      match d.change (makeDirectory d.now (name :: above).reverse) with
      | (.ok (), d) => (.ok (), d)
      | (.error e, d) =>
        if e = .notFound then
          match d.makeUpwards above with
          | (.error e, d) => (.error e, d)
          | (.ok (), d) => d.ensureDirectory (name :: above).reverse
        else if d.tree.isDirectory (name :: above).reverse then (.ok (), d)
        else (.error e, d) := by
  rw [makeUpwards]
  rcases d.change (makeDirectory d.now (name :: above).reverse) with ⟨e | u, d'⟩
  · cases e <;> rfl
  · rfl

/-- To make directories above one another leaves all files. -/
theorem makeUpwards_leaves (ht : d.tree.IsTree) (upwards : List String) :
    Leaves touched d (d.makeUpwards upwards).2 := by
  induction upwards generalizing d with
  | nil => exact ensureDirectory_leaves ht _
  | cons name above ih =>
    have h : Leaves touched d (d.change (makeDirectory d.now (name :: above).reverse)).2 :=
      makeDirectory_leaves ht d.now _
    rw [makeUpwards_cons]
    rcases hc : d.change (makeDirectory d.now (name :: above).reverse) with ⟨e | u, d'⟩ <;>
      rw [hc] at h
    · dsimp only
      by_cases he : e = .notFound
      · -- a directory above may be missing, and then it is made first
        rw [if_pos he]
        have habove : Leaves touched d' (d'.makeUpwards above).2 := ih h.isTree
        rcases hm : d'.makeUpwards above with ⟨e | u, d''⟩ <;> rw [hm] at habove
        · exact h.trans habove
        · exact (h.trans habove).trans (ensureDirectory_leaves habove.isTree _)
      · rw [if_neg he]
        split <;> exact h
    · exact h

/-- Making directories changes no file. -/
theorem makeDirectories_leaves (ht : d.tree.IsTree) (path : TreePath) :
    Leaves touched d (d.makeDirectories path).2 :=
  makeUpwards_leaves ht _

/-- Where a directory was made, the path is one that the file system accepts. -/
theorem nameable_of_makeDirectory {now : Instant} {path : TreePath}
    (h : d.change (makeDirectory now path) = (.ok (), d')) : d'.tree.Nameable path := by
  have hok := change_eq_ok h
  rw [nameable_congr (keepsBase_makeDirectory now path _ _ hok)]
  obtain ⟨found, hentry, hmade⟩ := Outcome.bind_eq_ok_iff.1 hok
  rcases List.eq_nil_or_concat path with rfl | ⟨dir, name, rfl⟩
  · rw [entry_nil hentry] at hmade
    cases hmade
  · rw [List.concat_eq_append] at hentry ⊢
    exact (entry_eq_ok hentry).2.2

theorem nameable_of_ensureDirectory {path : TreePath}
    (h : d.ensureDirectory path = (.ok (), d')) : d'.tree.Nameable path := by
  unfold ensureDirectory at h
  rcases hc : d.change (makeDirectory d.now path) with ⟨e | u, after⟩ <;> simp only [hc] at h
  · by_cases hdir : after.tree.isDirectory path
    · rw [if_pos hdir] at h
      obtain ⟨-, rfl⟩ := Prod.mk.inj h
      exact nameable_of_isDirectory hdir
    · rw [if_neg hdir] at h
      cases h
  · obtain ⟨-, rfl⟩ := Prod.mk.inj h
    exact nameable_of_makeDirectory hc

/-- Only a path that the file system accepts can be made, or be there. -/
theorem nameable_of_makeDirectories {path : TreePath}
    (h : d.makeDirectories path = (.ok (), d')) : d'.tree.Nameable path := by
  unfold makeDirectories at h
  cases hup : path.reverse with
  | nil =>
    obtain rfl : path = [] := List.reverse_eq_nil_iff.1 hup
    exact nameable_of_ensureDirectory h
  | cons name above =>
    have hpath : (name :: above).reverse = path := by rw [← hup, List.reverse_reverse]
    rw [hup, makeUpwards_cons, hpath] at h
    rcases hc : d.change (makeDirectory d.now path) with ⟨e | u, d1⟩ <;> simp only [hc] at h
    · by_cases he : e = .notFound
      · rw [if_pos he] at h
        rcases hm : d1.makeUpwards above with ⟨e | u, d2⟩ <;> simp only [hm] at h
        · cases h
        · exact nameable_of_ensureDirectory h
      · rw [if_neg he] at h
        by_cases hdir : d1.tree.isDirectory path
        · rw [if_pos hdir] at h
          obtain ⟨-, rfl⟩ := Prod.mk.inj h
          exact nameable_of_isDirectory hdir
        · rw [if_neg hdir] at h
          cases h
    · obtain ⟨-, rfl⟩ := Prod.mk.inj h
      exact nameable_of_makeDirectory hc

/-! ## Removing -/

theorem removeFile_leaves (ht : d.tree.IsTree) (now : Instant) (path : TreePath) :
    Leaves (· = path) d (d.change (removeFile now path)).2 := by
  apply change_leaves ht (keepsBase_removeFile now path)
  intro t' h
  refine ⟨ht.removeFile h, ?_⟩
  intro q hq
  exact file?_of_update (removeFile_eq_ok ht h).2 hq

theorem removeDirectory_leaves (ht : d.tree.IsTree) (now : Instant) {path : TreePath}
    (hp : path ≠ []) : Leaves (· = path) d (d.change (removeDirectory now path)).2 := by
  apply change_leaves ht (keepsBase_removeDirectory now path)
  intro t' h
  refine ⟨ht.removeDirectory hp h, ?_⟩
  intro q hq
  exact file?_of_update (removeDirectory_eq_ok hp h).2 hq

/-! ## Replacing files -/

/-- A file that is written in place touches nothing else. -/
theorem writeFile_leaves (ht : d.tree.IsTree) (now : Instant) {dir : TreePath} {name : String}
    (bytes : List UInt8) :
    Leaves (· = dir ++ [name]) d (d.change (writeFile now (dir ++ [name]) bytes)).2 := by
  apply change_leaves ht (keepsBase_writeFile now _ bytes)
  intro t' h
  refine ⟨ht.writeFile h, ?_⟩
  intro q hq
  exact file?_of_update (writeFile_eq_ok h).2.2 hq

/-- Taking away whatever is no directory touches nothing else. -/
theorem erase_leaves (ht : d.tree.IsTree) {path : TreePath} (hp : path ≠ [])
    (hf : d.tree.content? path ≠ some .directory) (now : Instant) :
    Leaves (· = path) d { d with tree := d.tree.erase path now } where
  isTree := ht.erase hp hf
  basePath := basePath_erase _ _ _
  fault := rfl
  files := by
    intro q hq
    exact file?_of_update (content?_erase d.tree hp now) hq

/-- Moving a file touches the two paths, and leads the bytes to the other one. -/
theorem moveFile_leaves (ht : d.tree.IsTree) {source dir : TreePath} {name : String}
    {bytes : List UInt8} {now : Instant} (hs : source ≠ [])
    (hf : d.tree.content? source = some (.file bytes))
    (h : d.change (moveFile now source (dir ++ [name])) = (.ok (), d')) :
    Leaves (fun q => q = source ∨ q = dir ++ [name]) d d' ∧ d'.tree.Nameable (dir ++ [name]) ∧
      d'.tree.file? (dir ++ [name]) = some bytes := by
  have hmove := change_eq_ok h
  obtain ⟨c, hc, -, -, hname, hcontent⟩ := moveFile_eq_ok ht hs hmove
  have hbytes : c = .file bytes := by
    rw [hc] at hf
    exact Option.some.inj hf
  have hbase := keepsBase_moveFile _ _ _ _ _ hmove
  refine ⟨⟨ht.moveFile hs hf hmove, hbase, (change_cases h).1, ?_⟩,
    (nameable_congr hbase _).2 hname, ?_⟩
  · intro q hq
    unfold file?
    rw [hcontent, update_of_ne (fun h => hq (.inr h)), update_of_ne fun h => hq (.inl h)]
  · rw [file?_eq_some_iff, hcontent, update_self, hbytes]

/-- A file that is replaced has the new bytes if all goes well and is left alone if not. The file
that was written first is touched in either case. -/
theorem replaceFile_spec (ht : d.tree.IsTree) {sdir dir : TreePath} {sname name : String}
    {bytes : List UInt8} {outcome : Except IoError Unit}
    (h : d.replaceFile (sdir ++ [sname]) (dir ++ [name]) bytes = (outcome, d')) :
    Leaves (fun q => q = sdir ++ [sname] ∨ (outcome = .ok () ∧ q = dir ++ [name])) d d' ∧
      (outcome = .ok () →
        d'.tree.Nameable (dir ++ [name]) ∧ d'.tree.file? (dir ++ [name]) = some bytes) := by
  -- the bytes are written to one path and moved to the other: first an empty file is made there
  unfold replaceFile at h
  have h1 : Leaves (· = sdir ++ [sname]) d
      (d.change (writeFile d.now (sdir ++ [sname]) [])).2 := writeFile_leaves ht _ _
  rcases hc1 : d.change (writeFile d.now (sdir ++ [sname]) []) with ⟨e | u, d1⟩ <;>
    rw [hc1] at h1 <;> simp only [hc1] at h
  · obtain ⟨rfl, rfl⟩ := Prod.mk.inj h
    exact ⟨h1.mono fun q hq => .inl hq, nofun⟩
  -- then it is filled
  have hempty := (writeFile_eq_ok (change_eq_ok hc1)).2.2
  have h2 : Leaves (· = sdir ++ [sname]) d1
      (d1.change (writeFile d1.now (sdir ++ [sname]) bytes)).2 := writeFile_leaves h1.isTree _ _
  rcases hc2 : d1.change (writeFile d1.now (sdir ++ [sname]) bytes) with ⟨e | u, d2⟩ <;>
    rw [hc2] at h2 <;> simp only [hc2] at h
  · -- the empty file that was written first is taken away again
    obtain ⟨rfl, rfl⟩ := Prod.mk.inj h
    obtain ⟨-, ⟨hok, -⟩ | ⟨_, -, htree, -⟩⟩ := change_cases hc2
    · cases hok
    have hfile : d2.tree.content? (sdir ++ [sname]) ≠ some .directory := by
      rw [htree, hempty, update_self]
      simp
    have h3 := erase_leaves h2.isTree (by simp) hfile d2.now
    exact ⟨((h1.trans h2).trans h3).mono fun q hq => .inl hq, nofun⟩
  -- and last it is moved, which replaces what stood at the other path all at once
  have hfull := (writeFile_eq_ok (change_eq_ok hc2)).2.2
  have hfile : d2.tree.content? (sdir ++ [sname]) = some (.file bytes) := by
    rw [hfull, update_self]
  rcases hc3 : d2.change (moveFile d2.now (sdir ++ [sname]) (dir ++ [name])) with ⟨e | u, d3⟩ <;>
    simp only [hc3] at h <;> obtain ⟨rfl, rfl⟩ := Prod.mk.inj h
  · -- the move failed and has changed nothing, so the file is taken away from where it was
    obtain ⟨hfault, ⟨hok, -⟩ | ⟨_, -, htree, -⟩⟩ := change_cases hc3
    · cases hok
    have hsame : Leaves (· = sdir ++ [sname]) d2 d3 := Leaves.of_tree_eq h2.isTree htree hfault
    have hstaged : d3.tree.content? (sdir ++ [sname]) ≠ some .directory := by
      rw [htree, hfile]
      simp
    have h3 := erase_leaves hsame.isTree (by simp) hstaged d3.now
    exact ⟨(((h1.trans h2).trans hsame).trans h3).mono fun q hq => .inl hq, nofun⟩
  · obtain ⟨h3, hname, hbytes⟩ := moveFile_leaves h2.isTree (by simp) hfile hc3
    have h12 := (h1.trans h2).mono fun q (hq : q = sdir ++ [sname]) =>
      (Or.inl hq : q = sdir ++ [sname] ∨ q = dir ++ [name])
    refine ⟨(h12.trans h3).mono ?_, fun _ => ⟨hname, hbytes⟩⟩
    rintro q (hq | hq)
    · exact .inl hq
    · exact .inr ⟨rfl, hq⟩

end Disk
end CacheService
