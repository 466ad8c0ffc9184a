import CacheService.Proofs.TextStore.Calls

/-!
# Directories that hold only texts

A root directory is tidy if all that stands in it could have been written by a cache of texts: the
directories of types, and files in them. Whatever happens to the calls of a write or a removal, a
tidy directory stays tidy. A clearing whose calls do not fail by themselves leaves the tree as it is
or succeeds, because nothing can be in the way.
-/

namespace CacheService

open FileTree Outcome Function

/-! ## What may stand where -/

namespace Disk

/-- A disk with the base of a tree, where all that stands may stand there. -/
structure Keeps (t : FileTree) (allowed : TreePath → Content → Prop) (d : Disk) : Prop where
  basePath : d.tree.basePath = t.basePath
  stands : ∀ q c, d.tree.content? q = some c → allowed q c

variable {t : FileTree} {allowed : TreePath → Content → Prop} {d d' : Disk} {path dir : TreePath}
  {name : String}

namespace Keeps

theorem of_tree_eq (h : d.Keeps t allowed) (htree : d'.tree = d.tree) : d'.Keeps t allowed where
  basePath := by rw [htree, h.basePath]
  stands := by
    rw [htree]
    exact h.stands

/-- A change puts nothing at a path but what may stand there. -/
theorem of_update (h : d.Keeps t allowed) {x : Option Content}
    (hbase : d'.tree.basePath = d.tree.basePath)
    (hcontent : d'.tree.content? = update d.tree.content? path x)
    (hx : ∀ c, x = some c → allowed path c) : d'.Keeps t allowed where
  basePath := hbase.trans h.basePath
  stands := by
    intro q c hc
    rw [hcontent] at hc
    by_cases hq : q = path
    · rw [hq, update_self] at hc
      rw [hq]
      exact hx c hc
    · rw [update_of_ne hq] at hc
      exact h.stands q c hc

/-- A call that puts only what is allowed to one path, if it succeeds. -/
theorem change (h : d.Keeps t allowed) {f : FileTree → Except IoError FileTree}
    (hbase : KeepsBase f)
    (hok : ∀ t', f d.tree = .ok t' → ∃ path x, t'.content? = update d.tree.content? path x ∧
      ∀ c, x = some c → allowed path c) : (d.change f).2.Keeps t allowed := by
  have hchange : d.change f = ((d.change f).1, (d.change f).2) := rfl
  obtain ⟨-, ⟨-, hdone⟩ | ⟨e, -, htree, -⟩⟩ := change_cases hchange
  · obtain ⟨path, x, hcontent, hx⟩ := hok _ hdone
    exact h.of_update (hbase _ _ hdone) hcontent hx
  · exact h.of_tree_eq htree

theorem makeDirectory (h : d.Keeps t allowed) (now : Instant)
    (hdir : t.Nameable path → allowed path .directory) :
    (d.change (FileTree.makeDirectory now path)).2.Keeps t allowed := by
  apply h.change (keepsBase_makeDirectory now path)
  intro t' hok
  rcases List.eq_nil_or_concat path with rfl | ⟨dir, name, rfl⟩
  · -- the base is there already
    obtain ⟨found, hentry, hok⟩ := bind_eq_ok_iff.1 hok
    rw [entry_nil hentry] at hok
    cases hok
  · rw [List.concat_eq_append] at hok hdir
    obtain ⟨found, hentry, -⟩ := bind_eq_ok_iff.1 hok
    refine ⟨_, _, (makeDirectory_eq_ok hok).2.2, ?_⟩
    rintro c ⟨⟩
    exact hdir ((nameable_congr h.basePath _).1 (entry_eq_ok hentry).2.2)

theorem ensureDirectory (h : d.Keeps t allowed) (hdir : t.Nameable path → allowed path .directory) :
    (d.ensureDirectory path).2.Keeps t allowed := by
  have hmade := h.makeDirectory d.now hdir
  unfold Disk.ensureDirectory
  rcases hc : d.change (FileTree.makeDirectory d.now path) with ⟨outcome, d'⟩
  rw [hc] at hmade
  cases outcome with
  | ok u => exact hmade
  | error e =>
    dsimp only
    split <;> exact hmade

/-- Directories that may stand on the way can be made. -/
theorem makeUpwards (h : d.Keeps t allowed) {upwards : List String}
    (hdirs : ∀ front, front <+: upwards.reverse → t.Nameable front → allowed front .directory) :
    (d.makeUpwards upwards).2.Keeps t allowed := by
  induction upwards generalizing d with
  | nil => exact h.ensureDirectory (hdirs [] (List.prefix_refl _))
  | cons name above ih =>
    have hdir := hdirs (name :: above).reverse (List.prefix_refl _)
    have hmade := h.makeDirectory d.now hdir
    rw [makeUpwards_cons]
    rcases hc : d.change (FileTree.makeDirectory d.now (name :: above).reverse)
      with ⟨e | u, d'⟩ <;> rw [hc] at hmade
    · dsimp only
      by_cases he : e = .notFound
      · -- the directories above are made before
        rw [if_pos he]
        have habove : (d'.makeUpwards above).2.Keeps t allowed := by
          apply ih hmade
          intro front hfront
          apply hdirs
          rw [List.reverse_cons]
          exact hfront.trans (List.prefix_append _ _)
        rcases hm : d'.makeUpwards above with ⟨e | u, d''⟩ <;> rw [hm] at habove
        · exact habove
        · exact habove.ensureDirectory hdir
      · rw [if_neg he]
        split <;> exact hmade
    · exact hmade

theorem makeDirectories (h : d.Keeps t allowed)
    (hdirs : ∀ front, front <+: path → t.Nameable front → allowed front .directory) :
    (d.makeDirectories path).2.Keeps t allowed :=
  h.makeUpwards (by rwa [List.reverse_reverse])

theorem writeFile (h : d.Keeps t allowed) (now : Instant) (bytes : List UInt8)
    (hfile : t.Nameable (dir ++ [name]) → allowed (dir ++ [name]) (.file bytes)) :
    (d.change (FileTree.writeFile now (dir ++ [name]) bytes)).2.Keeps t allowed := by
  apply h.change (keepsBase_writeFile now _ bytes)
  intro t' hok
  obtain ⟨found, hentry, -⟩ := bind_eq_ok_iff.1 hok
  refine ⟨_, _, (writeFile_eq_ok hok).2.2, ?_⟩
  rintro c ⟨⟩
  exact hfile ((nameable_congr h.basePath _).1 (entry_eq_ok hentry).2.2)

theorem removeFile (h : d.Keeps t allowed) (ht : d.tree.IsTree) (now : Instant) :
    (d.change (FileTree.removeFile now path)).2.Keeps t allowed := by
  apply h.change (keepsBase_removeFile now path)
  intro t' hok
  exact ⟨path, none, (removeFile_eq_ok ht hok).2, nofun⟩

theorem removeDirectory (h : d.Keeps t allowed) (hp : path ≠ []) (now : Instant) :
    (d.change (FileTree.removeDirectory now path)).2.Keeps t allowed := by
  apply h.change (keepsBase_removeDirectory now path)
  intro t' hok
  exact ⟨path, none, (removeDirectory_eq_ok hp hok).2, nofun⟩

theorem erase (h : d.Keeps t allowed) (hp : path ≠ []) (now : Instant) :
    Keeps t allowed { d with tree := d.tree.erase path now } :=
  h.of_update (basePath_erase _ _ _) (content?_erase d.tree hp now) nofun

/-- However far the replacement of a file gets, there are files at the two paths or what was there
before. -/
theorem replaceFile (h : d.Keeps t allowed) (ht : d.tree.IsTree) {sdir : TreePath} {sname : String}
    {bytes : List UInt8}
    (hstaged : ∀ bytes, t.Nameable (sdir ++ [sname]) → allowed (sdir ++ [sname]) (.file bytes))
    (htarget : t.Nameable (dir ++ [name]) → allowed (dir ++ [name]) (.file bytes)) :
    (d.replaceFile (sdir ++ [sname]) (dir ++ [name]) bytes).2.Keeps t allowed := by
  have hne : sdir ++ [sname] ≠ [] := by simp
  unfold Disk.replaceFile
  -- an empty file
  have h1 := h.writeFile d.now [] (hstaged [])
  have hl1 : Leaves (· = sdir ++ [sname]) d
      (d.change (FileTree.writeFile d.now (sdir ++ [sname]) [])).2 := writeFile_leaves ht _ _
  rcases hc1 : d.change (FileTree.writeFile d.now (sdir ++ [sname]) []) with ⟨e | u, d1⟩ <;>
    rw [hc1] at h1 hl1 <;> simp only
  · exact h1
  -- then the bytes
  have h2 := h1.writeFile d1.now bytes (hstaged bytes)
  have hl2 : Leaves (· = sdir ++ [sname]) d1
      (d1.change (FileTree.writeFile d1.now (sdir ++ [sname]) bytes)).2 :=
    writeFile_leaves hl1.isTree _ _
  rcases hc2 : d1.change (FileTree.writeFile d1.now (sdir ++ [sname]) bytes) with ⟨e | u, d2⟩ <;>
    rw [hc2] at h2 hl2 <;> simp only
  · exact h2.erase hne d2.now
  have hfull := (writeFile_eq_ok (change_eq_ok hc2)).2.2
  -- then the move, which takes the file from one path to the other
  rcases hc3 : d2.change (FileTree.moveFile d2.now (sdir ++ [sname]) (dir ++ [name]))
    with ⟨e | u, d3⟩ <;> simp only
  · obtain ⟨-, ⟨hok, -⟩ | ⟨_, -, htree, -⟩⟩ := change_cases hc3
    · cases hok
    exact (h2.of_tree_eq htree).erase hne d3.now
  · obtain ⟨c, hc, -, -, hname, hcontent⟩ := moveFile_eq_ok hl2.isTree hne (change_eq_ok hc3)
    have hbytes : c = .file bytes := by
      rw [hfull, update_self, Option.some.injEq] at hc
      exact hc.symm
    have herased : Keeps t allowed { d2 with tree := d2.tree.erase (sdir ++ [sname]) d2.now } :=
      h2.erase hne d2.now
    have hmoved : d3.tree.content? = update (d2.tree.erase (sdir ++ [sname]) d2.now).content?
        (dir ++ [name]) (some c) := by
      rw [hcontent, content?_erase d2.tree hne]
    apply herased.of_update _ hmoved
    · rintro c' ⟨⟩
      rw [hbytes]
      exact htarget ((nameable_congr h2.basePath _).1 hname)
    · rw [basePath_erase, keepsBase_moveFile _ _ _ _ _ (change_eq_ok hc3)]

end Keeps

/-- If no call but the next one can fail by itself, that one does or none does. -/
theorem fault_or_reliable (hd : ∀ call, call ≠ d.calls + 1 → d.fault call = none) :
    (∃ e, d.fault (d.calls + 1) = some e) ∨ d.Reliable := by
  cases hfault : d.fault (d.calls + 1) with
  | some e => exact .inl ⟨e, rfl⟩
  | none =>
    right
    intro call
    by_cases hcall : call = d.calls + 1
    · rw [hcall, hfault]
    · exact hd call hcall

end Disk

namespace TextFiles

variable {α : Type} {f f' : TextFiles} {key : TextKey} {textType : String}

/-- What may stand where below a root directory: directories of types that are not refused, and no
directories in them. Whatever stands has a path that the file system accepts. -/
structure Allows (t : FileTree) (root : TreePath) (q : TreePath) (c : Content) : Prop where
  name : t.Nameable q
  type : ∀ t, t ≠ TextName.staging → q = root ++ [t] → c = .directory →
    TextName.checkType t = .ok ()
  text : ∀ t id, t ≠ TextName.staging → q = root ++ [t] ++ [id] → c ≠ .directory

/-- All that stands in the root directory could have been written by a cache of texts. -/
structure Tidy (f : TextFiles) : Prop where
  isTree : f.disk.tree.IsTree
  keeps : f.disk.Keeps f.disk.tree (Allows f.disk.tree f.root)

/-- A directory on the way to that of a type, or to the staging directory. -/
theorem allows_directory {tree : FileTree} {root front : TreePath} {t : String}
    (hname : tree.Nameable front) (hfront : front <+: root ++ [t])
    (ht : t ≠ TextName.staging → TextName.checkType t = .ok ()) :
    Allows tree root front .directory where
  name := hname
  type := by
    rintro t' hne rfl -
    obtain rfl : t' = t := by
      have hsame := hfront.eq_of_length (by simp)
      simpa using hsame
    exact ht hne
  text := by
    rintro t' id - rfl
    have hlength := hfront.length_le
    simp at hlength

/-- A file may stand two names below the root. -/
theorem allows_file {tree : FileTree} {root : TreePath} {t name : String} {bytes : List UInt8}
    (hname : tree.Nameable (root ++ [t] ++ [name])) :
    Allows tree root (root ++ [t] ++ [name]) (.file bytes) where
  name := hname
  type := nofun
  text := nofun

/-- An empty directory is tidy. -/
theorem tidy_of_empty (h : f.disk.tree = {}) : f.Tidy where
  isTree := by
    rw [h]
    exact isTree_empty
  keeps := by
    refine ⟨rfl, ?_⟩
    intro q c hc
    rw [h] at hc ⊢
    cases q with
    | nil => exact ⟨by unfold Nameable; decide +kernel, by simp, by simp⟩
    | cons name rest => simp [content?, node?] at hc

namespace Tidy

/-- What may stand below a base does not depend on what stands there already. -/
theorem of_keeps (ht : f'.disk.tree.IsTree)
    (h : f'.disk.Keeps f.disk.tree (Allows f.disk.tree f'.root)) : f'.Tidy where
  isTree := ht
  keeps := by
    refine ⟨rfl, ?_⟩
    intro q c hc
    have hallows := h.stands q c hc
    exact ⟨(nameable_congr h.basePath q).2 hallows.name, hallows.type, hallows.text⟩

theorem of_tree_eq (h : f.Tidy) (hroot : f'.root = f.root) (htree : f'.disk.tree = f.disk.tree) :
    f'.Tidy := by
  apply of_keeps (f := f)
  · rw [htree]
    exact h.isTree
  · rw [hroot]
    exact h.keeps.of_tree_eq htree

/-! ## Writing and removing -/

/-- To make the directory of a good type, or that of staging, leaves all tidy. -/
theorem makeDirectories (h : f.Tidy) {path : TreePath} {outcome : Outcome Unit} {t : String}
    (ht : t ≠ TextName.staging → TextName.checkType t = .ok ())
    (hcall : f.call path (fun d => d.makeDirectories (f.root ++ [t])) = (outcome, f')) :
    f'.Tidy ∧ f'.root = f.root := by
  obtain ⟨rfl, -⟩ := call_eq hcall
  have hleaves : Disk.Leaves (fun _ => False) f.disk
      (f.disk.makeDirectories (f.root ++ [t])).2 := Disk.makeDirectories_leaves h.isTree _
  refine ⟨.of_keeps (f := f) hleaves.isTree ?_, rfl⟩
  apply h.keeps.makeDirectories
  intro front hfront hname
  exact allows_directory hname hfront ht

/-- Whether it succeeds or not, a write leaves a tidy directory. -/
theorem write (h : f.Tidy) {text : String} {outcome : Outcome Unit}
    (hwrite : f.write key text = (outcome, f')) : f'.Tidy := by
  unfold TextFiles.write at hwrite
  cases hp : f.typePath key.textType with
  | error e =>
    simp only [hp] at hwrite
    obtain ⟨-, rfl⟩ := Prod.mk.inj hwrite
    exact h
  | ok directory =>
    simp only [hp] at hwrite
    have hcheck : TextName.checkType key.textType = .ok () := by
      rw [typePath_eq] at hp
      cases hc : TextName.checkType key.textType with
      | error e => simp [hc, Except.map] at hp
      | ok u => rfl
    obtain ⟨rfl, -⟩ := typePath_eq_ok hp
    rcases h1 : f.call (f.root ++ [key.textType])
      (fun d => d.makeDirectories (f.root ++ [key.textType])) with ⟨e | u, f1⟩ <;>
      obtain ⟨ht1, hroot1⟩ := h.makeDirectories (fun _ => hcheck) h1 <;>
      simp only [h1] at hwrite
    · obtain ⟨-, rfl⟩ := Prod.mk.inj hwrite
      exact ht1
    rcases h2 : f1.call f1.stagingPath (fun d => d.makeDirectories f1.stagingPath)
      with ⟨e | u, f2⟩ <;>
      obtain ⟨ht2, hroot2⟩ := ht1.makeDirectories (fun hne => absurd rfl hne) h2 <;>
      simp only [h2] at hwrite
    · obtain ⟨-, rfl⟩ := Prod.mk.inj hwrite
      exact ht2
    cases hpath : f2.entryPath key with
    | error e =>
      simp only [hpath] at hwrite
      obtain ⟨-, rfl⟩ := Prod.mk.inj hwrite
      exact ht2
    | ok path =>
      -- both the staged file and the one in its place are files
      simp only [hpath] at hwrite
      obtain ⟨rfl, -⟩ := call_eq hwrite
      obtain ⟨name, hstaged⟩ := stagedPath_eq f2
      obtain ⟨rfl, -⟩ := entryPath_eq_ok hpath
      rw [hstaged]
      apply of_keeps (f := f2)
      · rcases hr : f2.disk.replaceFile (f2.stagingPath ++ [name])
          (f2.root ++ [key.textType] ++ [key.id]) (f2.packing.pack (Text.bytes text)) with ⟨o, d⟩
        exact (Disk.replaceFile_spec ht2.isTree hr).1.isTree
      · exact ht2.keeps.replaceFile ht2.isTree (fun _ => allows_file) allows_file

theorem remove (h : f.Tidy) {outcome : Outcome Bool} (hremove : f.remove key = (outcome, f')) :
    f'.Tidy := by
  obtain ⟨hleaves, -⟩ := remove_spec h.isTree hremove
  apply of_keeps (f := f) hleaves.isTree
  rw [hleaves.root]
  unfold TextFiles.remove at hremove
  cases hp : f.entryPath key with
  | error e =>
    simp only [hp] at hremove
    obtain ⟨-, rfl⟩ := Prod.mk.inj hremove
    exact h.keeps
  | ok path =>
    simp only [hp] at hremove
    rcases hc : f.callFound path (fun d => d.change (removeFile d.now path)) with ⟨found, after⟩
    rw [hc] at hremove
    obtain ⟨-, rfl⟩ := Prod.mk.inj hremove
    obtain ⟨rfl, -, -⟩ := callFound_cases hc
    exact h.keeps.removeFile h.isTree f.disk.now

end Tidy

/-! ## Clearing -/

/-- What can be listed is a directory. -/
theorem isDirectory_of_list {t : FileTree} {path : TreePath} {all : List (String × Bool)}
    (ht : t.IsTree) (h : t.list path = .ok all) : t.content? path = some .directory := by
  obtain ⟨n, hfind, hlist⟩ := bind_eq_ok_iff.1 h
  have hnode := ((find_eq_ok_iff ht).1 hfind).2
  by_cases hdir : n.isDirectory
  · rw [content?_of_node? hnode, (isDirectory_iff n).1 hdir]
  · simp [hdir] at hlist

/-- Names that are answered are those that are listed, if there is a directory. -/
theorem names_eq_ok (ht : f.disk.tree.IsTree) {path : TreePath} {directories : Bool}
    {all : List String} (h : f.names path directories = (.ok all, f')) :
    all = [] ∨ (f.disk.tree.content? path = some .directory ∧
      all = listed f.disk.tree path directories) := by
  unfold names at h
  rcases hc : f.callFound path (fun d => d.look fun t => t.list path) with ⟨found, after⟩
  rw [hc] at h
  obtain ⟨hall, -⟩ := Prod.mk.inj h
  obtain ⟨-, hsome, -⟩ := callFound_cases hc
  rcases found with e | _ | children
  · cases hall
  · exact .inl (Except.ok.inj hall).symm
  · have hlist := Disk.look_eq_ok (hsome children rfl)
    have hchildren := (list_cases ht).1 _ hlist
    refine .inr ⟨isDirectory_of_list ht hlist, ?_⟩
    rw [← Except.ok.inj hall, hchildren]
    rfl

/-- If the call that lists names fails by itself, there are none. -/
theorem names_of_fault {e : IoError} (hfault : f.disk.fault (f.disk.calls + 1) = some e)
    {path : TreePath} {directories : Bool} {all : List String}
    (h : f.names path directories = (.ok all, f')) : all = [] := by
  unfold names at h
  rcases hc : f.callFound path (fun d => d.look fun t => t.list path) with ⟨found, after⟩
  rw [hc] at h
  obtain ⟨hall, -⟩ := Prod.mk.inj h
  obtain ⟨-, hsome, -⟩ := callFound_cases hc
  rcases found with e | _ | children
  · cases hall
  · exact (Except.ok.inj hall).symm
  · have hlook := hsome children rfl
    simp [Disk.look, hfault] at hlook

namespace Tidy

/-- To clear a type that has a directory succeeds, and leaves the other types. -/
theorem clear_of_directory (h : f.Tidy) (hd : f.disk.Reliable)
    (hne : textType ≠ TextName.staging)
    (hdir : f.disk.tree.content? (f.root ++ [textType]) = some .directory) :
    ∃ n d, f.clear textType = (.ok n, { f with disk := d }) ∧ Tidy { f with disk := d } ∧
      d.Reliable ∧ ∀ t, t ≠ textType →
        d.tree.content? (f.root ++ [t]) = f.disk.tree.content? (f.root ++ [t]) := by
  have hallows := h.keeps.stands _ _ hdir
  have hfiles : ∀ name c, f.disk.tree.content? (f.root ++ [textType] ++ [name]) = some c →
      f.disk.tree.Nameable (f.root ++ [textType] ++ [name]) ∧ c ≠ .directory := by
    intro name c hc
    have hfile := h.keeps.stands _ _ hc
    exact ⟨hfile.name, hfile.text textType name hne rfl⟩
  obtain ⟨d, hclear, hr, hgone, hothers⟩ := TextFiles.clear_of_directory hd h.isTree
    (hallows.type textType hne rfl rfl) hallows.name hdir hfiles
  refine ⟨_, d, hclear, .of_keeps (f := f) hr.isTree ⟨hr.basePath, ?_⟩, hr.reliable hd, ?_⟩
  · intro q c hc
    -- what still stands stood there before
    by_cases hq : (f.root ++ [textType]) <+: q
    · obtain ⟨rest, rfl⟩ := hq
      by_cases hrest : rest = []
      · rw [hrest, List.append_nil] at hc
        exact absurd (hgone.symm.trans hc) nofun
      · have hdir := Rooted.above hr.isTree _ (by rw [hc]; rfl) hrest
        exact absurd (hgone.symm.trans hdir) nofun
    · rw [content?_congr (hothers q hq)] at hc
      exact h.keeps.stands q c hc
  · intro t ht
    exact content?_congr (hothers _ (by simpa using Ne.symm ht))

/-- Where no names are found, only the directory can be removed. -/
theorem clear_of_no_names (h : f.Tidy) {outcome : Outcome Nat}
    (hnames : ∀ all after, f.names (f.root ++ [textType]) false = (.ok all, after) → all = [])
    (hclear : f.clear textType = (outcome, f')) :
    f'.Tidy ∧ (f'.disk.tree = f.disk.tree ∨ ∃ n, outcome = .ok n) := by
  unfold TextFiles.clear at hclear
  cases hp : f.typePath textType with
  | error e =>
    simp only [hp] at hclear
    obtain ⟨-, rfl⟩ := Prod.mk.inj hclear
    exact ⟨h, .inl rfl⟩
  | ok directory =>
    simp only [hp] at hclear
    obtain ⟨rfl, -⟩ := typePath_eq_ok hp
    rcases hn : f.names (f.root ++ [textType]) false with ⟨e | ids, f1⟩ <;>
      obtain ⟨hl1, htree1⟩ := names_leaves h.isTree hn <;> simp only [hn] at hclear
    · obtain ⟨-, rfl⟩ := Prod.mk.inj hclear
      exact ⟨h.of_tree_eq hl1.root htree1, .inl htree1⟩
    have htidy1 : f1.Tidy := h.of_tree_eq hl1.root htree1
    obtain rfl := hnames ids f1 hn
    -- no file is removed, so the directory goes if it was empty
    have hne : f.root ++ [textType] ≠ [] := by simp
    have hkeeps := htidy1.keeps.removeDirectory hne f1.disk.now
    have htree2 := (Disk.removeDirectory_leaves htidy1.isTree f1.disk.now hne).isTree
    simp only [removeEach, callFound, call] at hclear
    rcases hc : f1.disk.change (FileTree.removeDirectory f1.disk.now (f.root ++ [textType]))
      with ⟨e | u, d⟩ <;> rw [hc] at hkeeps htree2 <;> obtain ⟨-, hcases⟩ := Disk.change_cases hc
    · obtain ⟨hok, -⟩ | ⟨_, -, htree, -⟩ := hcases
      · cases hok
      · simp only [hc] at hclear
        cases e <;> obtain ⟨-, rfl⟩ := Prod.mk.inj hclear <;>
          exact ⟨.of_keeps (f := f1) htree2 hkeeps, .inl (htree.trans htree1)⟩
    · simp only [hc] at hclear
      obtain ⟨rfl, rfl⟩ := Prod.mk.inj hclear
      exact ⟨.of_keeps (f := f1) htree2 hkeeps, .inr ⟨0, rfl⟩⟩

/-- If nothing fails by itself after the names are listed, a clearing leaves the tree as it is or
succeeds. -/
theorem clear (h : f.Tidy)
    (hd : ∀ call, call ≠ f.disk.calls + 1 → f.disk.fault call = none) {outcome : Outcome Nat}
    (hclear : f.clear textType = (outcome, f')) :
    f'.Tidy ∧ (f'.disk.tree = f.disk.tree ∨ ∃ n, outcome = .ok n) := by
  obtain ⟨e, hfault⟩ | hreliable := Disk.fault_or_reliable hd
  · exact h.clear_of_no_names (fun _ _ => names_of_fault hfault) hclear
  by_cases hdir : f.disk.tree.content? (f.root ++ [textType]) = some .directory
  · by_cases hne : textType = TextName.staging
    · -- the staging directory is no type
      have hrefused : ∃ e, f.typePath textType = .error e := by
        cases hp : f.typePath textType with
        | error e => exact ⟨e, rfl⟩
        | ok path => exact absurd hne (typePath_eq_ok hp).2
      obtain ⟨e, hp⟩ := hrefused
      simp only [TextFiles.clear, hp] at hclear
      obtain ⟨-, rfl⟩ := Prod.mk.inj hclear
      exact ⟨h, .inl rfl⟩
    · obtain ⟨n, d, hdone, htidy, -⟩ := h.clear_of_directory hreliable hne hdir
      obtain ⟨rfl, rfl⟩ := Prod.mk.inj (hdone.symm.trans hclear)
      exact ⟨htidy, .inr ⟨n, rfl⟩⟩
  · apply h.clear_of_no_names _ hclear
    intro all after hnames
    obtain hnone | ⟨hthere, -⟩ := names_eq_ok h.isTree hnames
    · exact hnone
    · exact absurd hthere hdir

/-- To clear types one by one succeeds if each has a directory. -/
theorem clearEach (h : f.Tidy) (hd : f.disk.Reliable) {types : List String}
    (hnodup : types.Nodup) (hdirs : ∀ t ∈ types, t ≠ TextName.staging ∧
      f.disk.tree.content? (f.root ++ [t]) = some .directory) (count : Nat) :
    ∃ n f', f.clearEach count types = (.ok n, f') ∧ f'.Tidy := by
  induction types generalizing f count with
  | nil => exact ⟨count, f, rfl, h⟩
  | cons t rest ih =>
    obtain ⟨hnew, hnodup'⟩ := List.nodup_cons.1 hnodup
    obtain ⟨hne, hdir⟩ := hdirs t List.mem_cons_self
    obtain ⟨m, d, hclear, htidy, hreliable, hkept⟩ := h.clear_of_directory hd hne hdir
    have hrest : ∀ other ∈ rest, other ≠ TextName.staging ∧
        d.tree.content? (f.root ++ [other]) = some .directory := by
      intro other hmem
      have hother : other ≠ t := by
        rintro rfl
        exact hnew hmem
      rw [hkept other hother]
      exact hdirs other (List.mem_cons_of_mem _ hmem)
    obtain ⟨n, f', heach, htidy'⟩ := ih htidy hreliable hnodup' hrest (count + m)
    refine ⟨n, f', ?_, htidy'⟩
    simp only [TextFiles.clearEach, hclear]
    exact heach

/-- If only the first call can fail by itself, clearing all types succeeds or does nothing. -/
theorem clearAll (h : f.Tidy)
    (hd : ∀ call, call ≠ f.disk.calls + 1 → f.disk.fault call = none) {outcome : Outcome Nat}
    (hclear : f.clearAll = (outcome, f')) :
    f'.Tidy ∧ (f'.disk.tree = f.disk.tree ∨ ∃ n, outcome = .ok n) := by
  unfold TextFiles.clearAll textTypes at hclear
  rcases hn : f.names f.root true with ⟨e | all, f1⟩ <;>
    obtain ⟨hl1, htree1⟩ := names_leaves h.isTree hn <;>
    simp only [hn, Except.map] at hclear
  · obtain ⟨-, rfl⟩ := Prod.mk.inj hclear
    exact ⟨h.of_tree_eq hl1.root htree1, .inl htree1⟩
  · have htidy1 : f1.Tidy := h.of_tree_eq hl1.root htree1
    obtain ⟨e, hfault⟩ | hreliable := Disk.fault_or_reliable hd
    · obtain rfl := names_of_fault hfault hn
      obtain ⟨rfl, rfl⟩ := Prod.mk.inj hclear
      exact ⟨htidy1, .inl htree1⟩
    have hreliable1 : f1.disk.Reliable := by
      intro call
      rw [hl1.fault]
      exact hreliable call
    -- only directories of types are cleared, each once
    have hall : all.Nodup ∧
        ∀ t ∈ all, f1.disk.tree.content? (f1.root ++ [t]) = some .directory := by
      rw [hl1.root, htree1]
      rcases names_eq_ok h.isTree hn with rfl | ⟨-, rfl⟩
      · exact ⟨List.nodup_nil, by simp⟩
      · refine ⟨nodup_of_ordered pairwise_listed, ?_⟩
        intro t ht
        exact item?_eq_directory_iff.1 (mem_listed_directories.1 ht)
    have hdirs : ∀ t ∈ all.filter (· != TextName.staging), t ≠ TextName.staging ∧
        f1.disk.tree.content? (f1.root ++ [t]) = some .directory := by
      intro t ht
      obtain ⟨hmem, hne⟩ := List.mem_filter.1 ht
      exact ⟨by simpa using hne, hall.2 t hmem⟩
    obtain ⟨n, f2, heach, htidy2⟩ :=
      htidy1.clearEach hreliable1 (hall.1.filter _) hdirs 0
    obtain ⟨rfl, rfl⟩ := Prod.mk.inj (heach.symm.trans hclear)
    exact ⟨htidy2, .inr ⟨n, rfl⟩⟩

end Tidy

end TextFiles

end CacheService
