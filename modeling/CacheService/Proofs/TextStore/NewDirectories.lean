import CacheService.Proofs.TextStore.Questions

/-!
# Trees that have gained directories

Work that makes directories and then fails leaves directories behind. Whatever stood in the tree
stands there still (`Gains`), so paths lead to the same files and directories list the same files.
Only failures can be different: where a path led nowhere because a directory on it was missing, it
can be followed further now, up to a name that is too long for the file system (`Follows`).
-/

namespace CacheService
namespace FileTree

open Function Outcome

/-- What stood in a tree stands in it still, and what is new are directories at some paths. -/
structure Gains (made : TreePath → Prop) (t t' : FileTree) : Prop where
  basePath : t'.basePath = t.basePath
  kept : ∀ q c, t.content? q = some c → t'.content? q = some c
  gained : ∀ q, t.content? q = none →
    t'.content? q = none ∨ (t'.content? q = some .directory ∧ made q)

/-- A directory has been made on the way along a path. -/
def Opened (t t' : FileTree) (path : TreePath) : Prop :=
  ∃ front, front <+: path ∧ t.content? front = none ∧ t'.content? front = some .directory

/-- A name on the path is longer than the file system can have it. -/
def TooLong (path : TreePath) : Prop :=
  ∃ name ∈ path, longestName < name.utf8ByteSize

variable {made made' : TreePath → Prop} {t t' t'' : FileTree} {path : TreePath}

namespace Gains

/-- Trees with the same contents have gained nothing. -/
theorem of_content?_eq (hbase : t'.basePath = t.basePath) (h : t'.content? = t.content?) :
    Gains made t t' where
  basePath := hbase
  kept := by
    intro q c hq
    rw [h, hq]
  gained := by
    intro q hq
    rw [h]
    exact .inl hq

theorem refl (t : FileTree) : Gains made t t :=
  of_content?_eq rfl rfl

theorem trans (h : Gains made t t') (h' : Gains made t' t'') : Gains made t t'' where
  basePath := h'.basePath.trans h.basePath
  kept q c hq := h'.kept q c (h.kept q c hq)
  gained := by
    intro q hq
    rcases h.gained q hq with hnone | ⟨hdir, hmade⟩
    · exact h'.gained q hnone
    · exact .inr ⟨h'.kept q _ hdir, hmade⟩

theorem mono (h : Gains made t t') (hsub : ∀ q, made q → made' q) : Gains made' t t' where
  basePath := h.basePath
  kept := h.kept
  gained q hq := (h.gained q hq).imp_right fun ⟨hdir, hmade⟩ => ⟨hdir, hsub q hmade⟩

/-- The files are the same. -/
theorem file? (h : Gains made t t') (q : TreePath) : t'.file? q = t.file? q := by
  unfold FileTree.file?
  cases hq : t.content? q with
  | some c => rw [h.kept q c hq]
  | none =>
    rcases h.gained q hq with hnone | ⟨hdir, -⟩
    · rw [hnone]
    · rw [hdir]
      rfl

theorem makeDirectory {now : Instant} (h : makeDirectory now path t = .ok t') :
    Gains (· = path) t t' := by
  have hbase := keepsBase_makeDirectory now path t t' h
  rcases List.eq_nil_or_concat path with rfl | ⟨dir, name, rfl⟩
  · -- the base is there already
    obtain ⟨found, hentry, h⟩ := bind_eq_ok_iff.1 h
    rw [entry_nil hentry] at h
    cases h
  · rw [List.concat_eq_append] at h ⊢
    obtain ⟨-, hnone, hcontent⟩ := makeDirectory_eq_ok h
    refine ⟨hbase, ?_, ?_⟩
    · intro q c hq
      rw [hcontent, update_of_ne, hq]
      rintro rfl
      rw [hnone] at hq
      cases hq
    · intro q hq
      by_cases hpath : q = dir ++ [name]
      · exact .inr ⟨by rw [hcontent, hpath, update_self], hpath⟩
      · exact .inl (by rw [hcontent, update_of_ne hpath, hq])

/-! ## Following paths -/

/-- What following a path finds before and after a tree has gained directories. -/
inductive Follows (t t' : FileTree) (path : TreePath) :
    Except IoError Node → Except IoError Node → Prop
  | found {n n' : Node} (content : n'.content = n.content) : Follows t t' path (.ok n) (.ok n')
  | failed (e : IoError) : Follows t t' path (.error e) (.error e)
  | made {n' : Node} (missing : t.content? path = none)
      (new : t'.content? path = some n'.content) (directory : n'.content = .directory) :
      Follows t t' path (.error .notFound) (.ok n')
  | tooLong (opened : Opened t t' path) (long : TooLong path) :
      Follows t t' path (.error .notFound) (.error .nameTooLong)

/-- From a directory that is new, only new directories can be reached, or a name that is too
long. -/
theorem walk_new (h : Gains made t t') (ht : t.IsTree) {before rest : TreePath} {node : Node}
    (hmissing : t.content? before = none) (hnode : t'.node? before = some node)
    (hopened : Opened t t' (before ++ rest)) :
    Follows t t' (before ++ rest) (.error .notFound) (t'.walk before node rest) := by
  have hdir : node.content = .directory := by
    have hcontent := content?_of_node? hnode
    rcases h.gained before hmissing with hnone | ⟨hdir, -⟩
    · rw [hnone] at hcontent
      cases hcontent
    · rw [hdir] at hcontent
      exact (Option.some.inj hcontent).symm
  induction rest generalizing before node with
  | nil =>
    rw [walk]
    rw [List.append_nil]
    exact .made hmissing (content?_of_node? hnode) hdir
  | cons name rest ih =>
    -- before, nothing stood below either, so what is there now is new as well
    have hbelow : t.content? (before ++ [name]) = none :=
      Rooted.nothing_below ht before (by rw [hmissing]; simp) name
    have hisdir : node.isDirectory = true := (isDirectory_iff node).2 hdir
    simp only [walk, hisdir, Bool.not_true, Bool.false_eq_true, if_false]
    by_cases hlong : longestName < name.utf8ByteSize
    · rw [if_pos hlong]
      exact .tooLong hopened ⟨name, by simp, hlong⟩
    · rw [if_neg hlong]
      have hsplit : before ++ name :: rest = before ++ [name] ++ rest := by simp
      cases hnext : t'.node? (before ++ [name]) with
      | none => exact .failed _
      | some next =>
        rw [hsplit] at hopened ⊢
        apply ih hbelow hnext hopened
        rcases h.gained _ hbelow with hnone | ⟨hnew, -⟩
        · rw [content?_of_node? hnext] at hnone
          cases hnone
        · rw [content?_of_node? hnext] at hnew
          exact Option.some.inj hnew

/-- Along a path both trees lead to the same, until something is missing before. -/
theorem walk (h : Gains made t t') (ht : t.IsTree) {before rest : TreePath} {node node' : Node}
    (hnode : t.node? before = some node) (hnode' : t'.node? before = some node') :
    Follows t t' (before ++ rest) (t.walk before node rest) (t'.walk before node' rest) := by
  have hcontent : node'.content = node.content := by
    have hkept := h.kept before _ (content?_of_node? hnode)
    rw [content?_of_node? hnode'] at hkept
    exact Option.some.inj hkept
  induction rest generalizing before node node' with
  | nil => exact .found hcontent
  | cons name rest ih =>
    have hsplit : before ++ name :: rest = before ++ [name] ++ rest := by simp
    simp only [FileTree.walk, isDirectory_congr hcontent]
    split
    · exact .failed _
    split
    · exact .failed _
    cases hnext : t.node? (before ++ [name]) with
    | some next =>
      obtain ⟨next', hnext', hsame⟩ :=
        Option.map_eq_some_iff.1 (h.kept _ _ (content?_of_node? hnext))
      rw [hnext', hsplit]
      exact ih hnext hnext' hsame
    | none =>
      -- the walk ended here before, and goes on now if a directory was made
      have hmissing : t.content? (before ++ [name]) = none := by simp [content?, hnext]
      cases hnext' : t'.node? (before ++ [name]) with
      | none => exact .failed _
      | some next' =>
        rw [hsplit]
        apply h.walk_new ht hmissing hnext'
        rcases h.gained _ hmissing with hnone | ⟨hnew, -⟩
        · rw [content?_of_node? hnext'] at hnone
          cases hnone
        · exact ⟨before ++ [name], List.prefix_append _ _, hmissing, hnew⟩

theorem find (h : Gains made t t') (ht : t.IsTree) (path : TreePath) :
    Follows t t' path (t.find path) (t'.find path) := by
  unfold FileTree.find
  rw [checkPath_congr h.basePath]
  cases hcheck : t.checkPath path with
  | error e => exact .failed e
  | ok u =>
    rw [ok_bind, ok_bind]
    exact h.walk ht (node?_nil t) (node?_nil t')

/-! ## Reading and listing -/

/-- A path where no directory was made leads to the same file, or to the same failure, or now to a
name that is too long. -/
theorem read (h : Gains made t t') (ht : t.IsTree) (hpath : ¬ made path) :
    t'.read path = t.read path ∨
      (t.read path = .error .notFound ∧ t'.read path = .error .nameTooLong ∧
        Opened t t' path ∧ TooLong path) := by
  have hfollows := h.find ht path
  unfold FileTree.read
  generalize t.find path = before at hfollows ⊢
  generalize t'.find path = after at hfollows ⊢
  cases hfollows with
  | found content =>
    rw [ok_bind, ok_bind, content]
    exact .inl rfl
  | failed e => exact .inl rfl
  | made missing new directory =>
    -- what is new at the end of the path is a directory that was made there
    rcases h.gained path missing with hnone | ⟨-, hmade⟩
    · rw [hnone] at new
      cases new
    · exact absurd hmade hpath
  | tooLong opened long => exact .inr ⟨rfl, rfl, opened, long⟩

/-- A directory that could be listed can be listed, and one that was missing may be there now. -/
theorem list (h : Gains made t t') (ht : t.IsTree) (path : TreePath) :
    (∃ e, t.list path = .error e ∧ t'.list path = .error e) ∨
      (t.list path = .ok (t.children path) ∧ t'.list path = .ok (t'.children path)) ∨
      (t.list path = .error .notFound ∧ t'.list path = .ok (t'.children path) ∧
        t.content? path = none) ∨
      (t.list path = .error .notFound ∧ t'.list path = .error .nameTooLong ∧
        Opened t t' path ∧ TooLong path) := by
  have hfollows := h.find ht path
  unfold FileTree.list
  generalize t.find path = before at hfollows ⊢
  generalize t'.find path = after at hfollows ⊢
  cases hfollows with
  | @found n n' content =>
    rw [ok_bind, ok_bind, isDirectory_congr content]
    cases n.isDirectory with
    | true => exact .inr (.inl ⟨rfl, rfl⟩)
    | false => exact .inl ⟨.notADirectory, rfl, rfl⟩
  | failed e => exact .inl ⟨e, rfl, rfl⟩
  | @made n' missing new directory =>
    have hisdir : n'.isDirectory = true := (isDirectory_iff n').2 directory
    rw [ok_bind, hisdir]
    exact .inr (.inr (.inl ⟨rfl, rfl, missing⟩))
  | tooLong opened long => exact .inr (.inr (.inr ⟨rfl, rfl, opened, long⟩))

end Gains
end FileTree

/-! ## What disks gain -/

namespace Disk

open FileTree Function Outcome

variable {made : TreePath → Prop} {d d' : Disk} {path : TreePath}

/-- A call that changes nothing but one path, if it succeeds. -/
theorem gains_makeDirectory (d : Disk) (now : Instant) (hpath : made path) :
    Gains made d.tree (d.change (makeDirectory now path)).2.tree := by
  have hchange : d.change (makeDirectory now path) =
      ((d.change (makeDirectory now path)).1, (d.change (makeDirectory now path)).2) := rfl
  obtain ⟨-, ⟨-, hdone⟩ | ⟨e, -, htree, -⟩⟩ := change_cases hchange
  · apply (Gains.makeDirectory hdone).mono
    rintro q rfl
    exact hpath
  · rw [htree]
    exact .refl _

theorem gains_ensureDirectory (d : Disk) (hpath : made path) :
    Gains made d.tree (d.ensureDirectory path).2.tree := by
  have hmade := d.gains_makeDirectory d.now hpath
  unfold ensureDirectory
  rcases hc : d.change (makeDirectory d.now path) with ⟨e | u, after⟩ <;> rw [hc] at hmade
  · dsimp only
    split <;> exact hmade
  · exact hmade

/-- Whichever directories are made, they are on the way. -/
theorem gains_makeUpwards (d : Disk) {upwards : List String}
    (hpaths : ∀ front, front <+: upwards.reverse → made front) :
    Gains made d.tree (d.makeUpwards upwards).2.tree := by
  induction upwards generalizing d with
  | nil => exact d.gains_ensureDirectory (hpaths [] (List.prefix_refl _))
  | cons name above ih =>
    have hpath := hpaths _ (List.prefix_refl _)
    have hmade := d.gains_makeDirectory d.now hpath
    rw [makeUpwards_cons]
    rcases hc : d.change (makeDirectory d.now (name :: above).reverse) with ⟨e | u, after⟩ <;>
      rw [hc] at hmade
    · dsimp only
      by_cases he : e = .notFound
      · -- the directories above come first, and the directory itself is tried again
        rw [if_pos he]
        have habove := ih after fun front hfront => hpaths front (by
          rw [List.reverse_cons]
          exact hfront.trans (List.prefix_append _ _))
        rcases hm : after.makeUpwards above with ⟨e | u, upper⟩ <;> rw [hm] at habove
        · exact hmade.trans habove
        · exact (hmade.trans habove).trans (upper.gains_ensureDirectory hpath)
      · rw [if_neg he]
        split <;> exact hmade
    · exact hmade

/-- Making directories makes them on the way to the last one only. -/
theorem gains_makeDirectories (d : Disk) (path : TreePath) :
    Gains (· <+: path) d.tree (d.makeDirectories path).2.tree :=
  d.gains_makeUpwards fun front hfront => by rwa [List.reverse_reverse] at hfront

/-- Replacing a file fails without a trace, if nothing stood where the new one was written first. -/
theorem replaceFile_failed {sdir target : TreePath} {sname : String} {bytes : List UInt8}
    {e : IoError} (hfree : d.tree.content? (sdir ++ [sname]) = none)
    (h : d.replaceFile (sdir ++ [sname]) target bytes = (.error e, d')) :
    Gains made d.tree d'.tree := by
  have hne : sdir ++ [sname] ≠ [] := by simp
  -- whatever the staged file holds, it is taken away again
  have hdiscard : ∀ {t : FileTree} {now : Instant} {x : Option Content},
      t.basePath = d.tree.basePath →
      t.content? = update d.tree.content? (sdir ++ [sname]) x →
        Gains made d.tree (t.erase (sdir ++ [sname]) now) := by
    intro t now x hbase ht
    apply Gains.of_content?_eq
    · rw [basePath_erase, hbase]
    · rw [content?_erase t hne, ht, update_idem, update_eq_self_iff, hfree]
  unfold replaceFile at h
  rcases hc1 : d.change (writeFile d.now (sdir ++ [sname]) []) with ⟨e | u, d1⟩ <;>
    simp only [hc1] at h
  · obtain ⟨-, rfl⟩ := Prod.mk.inj h
    obtain ⟨-, ⟨hok, -⟩ | ⟨_, -, htree, -⟩⟩ := change_cases hc1
    · cases hok
    · rw [htree]
      exact .refl _
  have hempty := (writeFile_eq_ok (change_eq_ok hc1)).2.2
  have hbase1 := keepsBase_writeFile _ _ _ _ _ (change_eq_ok hc1)
  rcases hc2 : d1.change (writeFile d1.now (sdir ++ [sname]) bytes) with ⟨e | u, d2⟩ <;>
    simp only [hc2] at h
  · obtain ⟨-, rfl⟩ := Prod.mk.inj h
    obtain ⟨-, ⟨hok, -⟩ | ⟨_, -, htree, -⟩⟩ := change_cases hc2
    · cases hok
    · exact hdiscard (by rw [htree, hbase1]) (by rw [htree, hempty])
  have hfull := (writeFile_eq_ok (change_eq_ok hc2)).2.2
  rw [hempty, update_idem] at hfull
  have hbase2 := (keepsBase_writeFile _ _ _ _ _ (change_eq_ok hc2)).trans hbase1
  rcases hc3 : d2.change (moveFile d2.now (sdir ++ [sname]) target) with ⟨e | u, d3⟩ <;>
    simp only [hc3] at h
  · obtain ⟨-, rfl⟩ := Prod.mk.inj h
    obtain ⟨-, ⟨hok, -⟩ | ⟨_, -, htree, -⟩⟩ := change_cases hc3
    · cases hok
    · exact hdiscard (by rw [htree, hbase2]) (by rw [htree, hfull])
  · cases (Prod.mk.inj h).1

end Disk

/-! ## Names in directories -/

namespace TextFiles

open FileTree

variable {made : TreePath → Prop} {t t' : FileTree}

/-- The files of a directory are listed as before. -/
theorem listed_files_of_gains (h : Gains made t t') (path : TreePath) :
    listed t' path false = listed t path false := by
  have hfile (t : FileTree) (name : String) :
      name ∈ listed t path false ↔ (t.file? (path ++ [name])).isSome := by
    rw [mem_listed, file?, content?]
    cases t.node? (path ++ [name]) with
    | none => simp
    | some n => cases hc : n.content <;> simp [Node.isDirectory, hc, Content.bytes?]
  apply names_ext pairwise_listed pairwise_listed
  intro name
  rw [hfile, hfile, h.file?]

/-- Nothing is listed where nothing stands. -/
theorem listed_of_missing (ht : t.IsTree) {path : TreePath} (hmissing : t.content? path = none)
    (directories : Bool) : listed t path directories = [] := by
  rw [List.eq_nil_iff_forall_not_mem]
  intro name hmem
  obtain ⟨n, hn, -⟩ := mem_listed.1 hmem
  have hnone := Rooted.nothing_below ht path (by rw [hmissing]; simp) name
  rw [content?_of_node? hn] at hnone
  cases hnone

end TextFiles
end CacheService
