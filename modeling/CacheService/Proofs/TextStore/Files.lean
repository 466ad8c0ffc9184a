import CacheService.Proofs.Text.Utf8
import CacheService.Proofs.TextStore.Disk
import CacheService.TextStore.Files

/-!
# What the operations on texts in files do

`stored?` is the text that the disk holds under a key. Each operation is described by the keys whose
texts it leaves alone (`Leaves`), and by the texts under the other keys after it has succeeded.
-/

namespace CacheService
namespace TextFiles

open FileTree Outcome

/-! ## Paths -/

/-- A type that is accepted has its directory in the root, beside that of staging. -/
theorem typePath_eq_ok {f : TextFiles} {textType : String} {path : TreePath}
    (h : f.typePath textType = .ok path) :
    path = f.root ++ [textType] ∧ textType ≠ TextName.staging := by
  obtain ⟨u, hc, hp⟩ := bind_eq_ok_iff.1 h
  refine ⟨by simpa using hp.symm, ?_⟩
  rintro rfl
  obtain ⟨u', -, hs⟩ := bind_eq_ok_iff.1 hc
  simp at hs

/-- The file of a text stands in the directory of its type. -/
theorem entryPath_eq_ok {f : TextFiles} {key : TextKey} {path : TreePath}
    (h : f.entryPath key = .ok path) :
    path = f.root ++ [key.textType] ++ [key.id] ∧ key.textType ≠ TextName.staging := by
  obtain ⟨u, -, h⟩ := bind_eq_ok_iff.1 h
  obtain ⟨directory, hd, h⟩ := bind_eq_ok_iff.1 h
  obtain ⟨hdir, htype⟩ := typePath_eq_ok hd
  exact ⟨by simpa [hdir] using h.symm, htype⟩

theorem entryPath_congr {f f' : TextFiles} (h : f'.toTextLayout = f.toTextLayout) (key : TextKey) :
    f'.entryPath key = f.entryPath key := by
  simp only [entryPath, typePath, h]

/-- Different keys have different files. -/
theorem entryPath_inj {f : TextFiles} {key key' : TextKey} {path : TreePath}
    (h : f.entryPath key = .ok path) (h' : f.entryPath key' = .ok path) : key = key' := by
  have hsame := (entryPath_eq_ok h).1.symm.trans (entryPath_eq_ok h').1
  cases key
  cases key'
  simpa using hsame

/-- A file that is being written has a name in the staging directory. -/
theorem stagedPath_eq (f : TextFiles) : ∃ name, f.stagedPath = f.stagingPath ++ [name] :=
  ⟨_, rfl⟩

/-- No text is kept in the staging directory. -/
theorem entryPath_ne_staged {f : TextFiles} {key : TextKey} {path : TreePath} {name : String}
    (h : f.entryPath key = .ok path) : path ≠ f.stagingPath ++ [name] := by
  obtain ⟨rfl, htype⟩ := entryPath_eq_ok h
  intro hsame
  simp only [stagingPath, List.append_assoc, List.append_cancel_left_eq, List.cons_append,
    List.nil_append, List.cons.injEq] at hsame
  exact htype hsame.1

/-! ## Texts on the disk -/

/-- The text that the disk holds under a key. -/
def stored? (f : TextFiles) (key : TextKey) : Option String := do
  let path ← (f.entryPath key).toOption
  let bytes ← (f.disk.tree.read path).toOption
  (f.textOf bytes).toOption

/-- Without a file there is no text. -/
theorem stored?_eq_none {f : TextFiles} (ht : f.disk.tree.IsTree) {key : TextKey}
    (h : f.disk.tree.content? (f.root ++ [key.textType] ++ [key.id]) = none) :
    f.stored? key = none := by
  unfold stored?
  cases hp : f.entryPath key with
  | error e => rfl
  | ok path =>
    have hpath := (entryPath_eq_ok hp).1
    cases hr : f.disk.tree.read path with
    | error e => simp [hr]
    | ok bytes =>
      have hfile := ((read_eq_ok_iff ht).1 hr).2
      rw [file?, hpath, h] at hfile
      cases hfile

theorem textOf_congr {f f' : TextFiles} (h : f'.toTextLayout = f.toTextLayout)
    (bytes : List UInt8) : f'.textOf bytes = f.textOf bytes := by
  simp only [textOf, h]

/-- What was packed is the text again. -/
theorem textOf_pack (f : TextFiles) (text : String) :
    f.textOf (f.packing.pack (Text.bytes text)) = .ok text := by
  simp [textOf, f.packing.unpack_pack, Text.ofBytes?_bytes]

/-- A file of packed bytes is the text of the bytes. -/
theorem stored?_of_file {f : TextFiles} (ht : f.disk.tree.IsTree) {key : TextKey} {path : TreePath}
    {text : String} (hp : f.entryPath key = .ok path) (hname : f.disk.tree.Nameable path)
    (hfile : f.disk.tree.file? path = some (f.packing.pack (Text.bytes text))) :
    f.stored? key = some text := by
  have hread : f.disk.tree.read path = .ok (f.packing.pack (Text.bytes text)) :=
    (read_eq_ok_iff ht).2 ⟨hname, hfile⟩
  simp [stored?, hp, hread, f.textOf_pack]

/-- Work on texts in files that leaves a tree, and the texts under all keys but the touched ones. -/
structure Leaves (touched : TextKey → Prop) (f f' : TextFiles) : Prop where
  layout : f'.toTextLayout = f.toTextLayout
  isTree : f'.disk.tree.IsTree
  basePath : f'.disk.tree.basePath = f.disk.tree.basePath
  fault : f'.disk.fault = f.disk.fault
  texts : ∀ key, ¬ touched key → f'.stored? key = f.stored? key

namespace Leaves

variable {touched touched' : TextKey → Prop} {f f' f'' : TextFiles}

theorem root (h : Leaves touched f f') : f'.root = f.root := by
  rw [h.layout]

/-- Files that are left alone are texts that are left alone. -/
theorem of_disk {paths : TreePath → Prop} (hlayout : f'.toTextLayout = f.toTextLayout)
    (ht : f.disk.tree.IsTree)
    (h : Disk.Leaves paths f.disk f'.disk)
    (hsub : ∀ key path, f.entryPath key = .ok path → paths path → touched key) :
    Leaves touched f f' where
  layout := hlayout
  isTree := h.isTree
  basePath := h.basePath
  fault := h.fault
  texts := by
    intro key hkey
    unfold stored?
    simp only [entryPath_congr hlayout, textOf_congr hlayout]
    cases hp : f.entryPath key with
    | error e => rfl
    | ok path =>
      have hfile := h.files path fun hpath => hkey (hsub key path hp hpath)
      have hread := toOption_read_congr ht h.isTree h.basePath hfile
      simp only [toOption_ok, Option.bind_eq_bind, Option.bind_some, hread]

theorem of_tree_eq (ht : f.disk.tree.IsTree) (hlayout : f'.toTextLayout = f.toTextLayout)
    (htree : f'.disk.tree = f.disk.tree) (hf : f'.disk.fault = f.disk.fault) :
    Leaves touched f f' where
  layout := hlayout
  isTree := by rwa [htree]
  basePath := by rw [htree]
  fault := hf
  texts := by
    intro key _
    unfold stored?
    simp only [entryPath_congr hlayout, textOf_congr hlayout, htree]

theorem refl (ht : f.disk.tree.IsTree) : Leaves touched f f :=
  of_tree_eq ht rfl rfl rfl

theorem trans (h : Leaves touched f f') (h' : Leaves touched f' f'') : Leaves touched f f'' where
  layout := h'.layout.trans h.layout
  isTree := h'.isTree
  basePath := h'.basePath.trans h.basePath
  fault := h'.fault.trans h.fault
  texts := by
    intro key hkey
    rw [h'.texts key hkey, h.texts key hkey]

theorem mono (h : Leaves touched f f') (hsub : ∀ key, touched key → touched' key) :
    Leaves touched' f f' where
  layout := h.layout
  isTree := h.isTree
  basePath := h.basePath
  fault := h.fault
  texts := by
    intro key hkey
    exact h.texts key fun ht => hkey (hsub key ht)

/-- Work that touches no text leaves all texts alone but some. -/
theorem of_none (h : Leaves (fun _ => False) f f') : Leaves touched f f' :=
  h.mono fun _ hfalse => hfalse.elim

theorem honest (h : Leaves touched f f') (hd : f.disk.Honest) : f'.disk.Honest := by
  intro call
  rw [h.fault]
  exact hd call

end Leaves

/-! ## Calls -/

section Calls

variable {α : Type} {f f' : TextFiles} {path : TreePath}

/-- A call changes nothing but the disk, and its failure names the path. -/
theorem call_eq {act : Disk → Except IoError α × Disk} {outcome : Outcome α}
    (h : f.call path act = (outcome, f')) :
    f' = { f with disk := (act f.disk).2 } ∧
      outcome = (act f.disk).1.mapError (f.failure path) := by
  obtain ⟨rfl, rfl⟩ := Prod.mk.inj h
  exact ⟨rfl, rfl⟩

/-- A call about a path where nothing need be answers nothing only if something is missing. -/
theorem callFound_cases {act : Disk → Except IoError α × Disk} {outcome : Outcome (Option α)}
    (h : f.callFound path act = (outcome, f')) :
    f' = { f with disk := (act f.disk).2 } ∧
      (∀ a, outcome = .ok (some a) → (act f.disk).1 = .ok a) ∧
      (outcome = .ok none → (act f.disk).1 = .error .notFound) := by
  obtain ⟨hf, ho⟩ := call_eq h
  rcases hact : act f.disk with ⟨e | a, d⟩
  · rw [hact] at hf ho
    cases e <;> simp_all [Except.mapError]
  · rw [hact] at hf ho
    simp_all [Except.mapError]

/-- A change of something that need not be there has been made, or there was nothing to change. -/
theorem callFound_change (change : Instant → FileTree → Except IoError FileTree)
    {found : Option Unit} (hd : f.disk.Honest)
    (h : f.callFound path (fun d => d.change (change d.now)) = (.ok found, f')) :
    change f.disk.now f.disk.tree = .ok f'.disk.tree ∨
      (f'.disk.tree = f.disk.tree ∧ change f.disk.now f.disk.tree = .error .notFound) := by
  obtain ⟨hf', hsome, hnone⟩ := callFound_cases h
  rcases hc : f.disk.change (change f.disk.now) with ⟨outcome, d⟩
  obtain ⟨-, hcases⟩ := Disk.change_cases hc
  rw [hc] at hsome hnone
  have hdisk : f'.disk = d := by rw [hf', hc]
  rw [hdisk]
  rcases hcases with ⟨-, hdone⟩ | ⟨e, he, htree, hmissing⟩
  · exact .inl hdone
  · -- the only failure that is no failure of the whole is that nothing was there
    cases found with
    | none =>
      have : e = .notFound := Except.error.inj (he.symm.trans (hnone rfl))
      exact .inr ⟨htree, hmissing hd this⟩
    | some u => cases he.symm.trans (hsome u rfl)

theorem mapError_eq_ok {ε ε' : Type} {g : ε → ε'} {x : Except ε α} {a : α}
    (h : x.mapError g = .ok a) : x = .ok a := by
  cases x with
  | error e => cases h
  | ok b =>
    have : b = a := by simpa [Except.mapError] using h
    rw [this]

end Calls

/-! ## Reading -/

section Operations

variable {f f' : TextFiles} {key : TextKey}

/-- A read leaves everything alone and answers the stored text, or nothing where there is none. -/
theorem find_spec {outcome : Outcome (Option String)} (ht : f.disk.tree.IsTree)
    (h : f.find key = (outcome, f')) :
    Leaves (fun _ => False) f f' ∧ (∀ text, outcome = .ok (some text) → f.stored? key = some text) ∧
      (f.disk.Honest → outcome = .ok none → f.stored? key = none) := by
  unfold find at h
  cases hp : f.entryPath key with
  | error e =>
    simp only [hp] at h
    obtain ⟨rfl, rfl⟩ := Prod.mk.inj h
    exact ⟨Leaves.refl ht, nofun, nofun⟩
  | ok path =>
    simp only [hp] at h
    rcases hc : f.callFound path (fun d => d.look fun t => t.read path) with ⟨found, after⟩
    obtain ⟨hafter, hsome, hnone⟩ := callFound_cases hc
    have hleaves : Leaves (fun _ => False) f after := by
      rw [hafter]
      exact Leaves.of_tree_eq ht rfl rfl rfl
    rcases found with e | _ | bytes
    · simp only [hc] at h
      obtain ⟨rfl, rfl⟩ := Prod.mk.inj h
      exact ⟨hleaves, nofun, nofun⟩
    · simp only [hc] at h
      obtain ⟨rfl, rfl⟩ := Prod.mk.inj h
      refine ⟨hleaves, nofun, ?_⟩
      intro hd _
      have hmissing := content?_of_read_notFound ht (Disk.look_eq_notFound hd (hnone rfl))
      rw [(entryPath_eq_ok hp).1] at hmissing
      exact stored?_eq_none ht hmissing
    · simp only [hc] at h
      obtain ⟨rfl, rfl⟩ := Prod.mk.inj h
      have hread := Disk.look_eq_ok (hsome bytes rfl)
      -- the answer is made of these bytes as the stored text is
      have htext : ∀ found,
          ((after.textOf bytes).map some).mapError (after.failure path) = .ok found →
            (f.textOf bytes).toOption = found := by
        intro found hfound
        have := mapError_eq_ok hfound
        rw [textOf_congr hleaves.layout] at this
        cases ho : f.textOf bytes with
        | error e => simp [ho, Except.map] at this
        | ok text => simpa [ho, Except.map] using this
      refine ⟨hleaves, ?_, ?_⟩
      · intro text htrue
        simp [stored?, hp, hread, htext _ htrue]
      · intro _ hfalse
        simp [stored?, hp, hread, htext _ hfalse]

/-! ## Writing -/

/-- Directories are made without touching a text. -/
theorem makeDirectories_leaves {outcome : Outcome Unit} {path directory : TreePath}
    (ht : f.disk.tree.IsTree)
    (h : f.call path (fun d => d.makeDirectories directory) = (outcome, f')) :
    Leaves (fun _ => False) f f' := by
  obtain ⟨rfl, -⟩ := call_eq h
  exact Leaves.of_disk rfl ht (Disk.makeDirectories_leaves ht directory) fun _ _ _ h => h

/-- The file of a key is replaced without touching the other texts, and stores the text then. -/
theorem replaceFile_spec {text : String} {path : TreePath} {outcome : Outcome Unit}
    (ht : f.disk.tree.IsTree) (hp : f.entryPath key = .ok path)
    (h : f.call path (fun d => d.replaceFile f.stagedPath path (f.packing.pack (Text.bytes text))) =
      (outcome, f')) :
    Leaves (fun k => outcome = .ok () ∧ k = key) f f' ∧
      (outcome = .ok () → f'.stored? key = some text) := by
  obtain ⟨hf', ho⟩ := call_eq h
  obtain ⟨name, hstaged⟩ := stagedPath_eq f
  have hform := (entryPath_eq_ok hp).1
  rcases hr : f.disk.replaceFile f.stagedPath path (f.packing.pack (Text.bytes text))
    with ⟨replaced, d⟩
  rw [hr] at hf' ho
  rw [hstaged, hform] at hr
  obtain ⟨hleaves, hdone⟩ := Disk.replaceFile_spec ht hr
  have hlayout : f'.toTextLayout = f.toTextLayout := by rw [hf']
  have hdisk : f'.disk = d := by rw [hf']
  rw [← hdisk, ← hform] at hleaves hdone
  have hl : Leaves (fun k => outcome = .ok () ∧ k = key) f f' := by
    apply Leaves.of_disk hlayout ht hleaves
    rintro k q hk (hq | ⟨htrue, hq⟩)
    · -- the file that is written first is no file of a key
      exact absurd hq (entryPath_ne_staged hk)
    · rw [hq] at hk
      exact ⟨by rw [ho, htrue]; rfl, entryPath_inj hk hp⟩
  refine ⟨hl, ?_⟩
  intro htrue
  obtain ⟨hname, hfile⟩ := hdone (mapError_eq_ok (ho.symm.trans htrue))
  exact stored?_of_file hl.isTree (by rw [entryPath_congr hl.layout, hp]) hname
    (by rw [hl.layout]; exact hfile)

/-- A write that succeeds stores the text, and one that fails leaves all texts alone. -/
theorem write_spec {text : String} {outcome : Outcome Unit} (ht : f.disk.tree.IsTree)
    (h : f.write key text = (outcome, f')) :
    Leaves (fun k => outcome = .ok () ∧ k = key) f f' ∧
      (outcome = .ok () → f'.stored? key = some text) := by
  -- two directories are made if they are missing, and then the file is replaced
  unfold write at h
  cases hp : f.typePath key.textType with
  | error e =>
    simp only [hp] at h
    obtain ⟨rfl, rfl⟩ := Prod.mk.inj h
    exact ⟨Leaves.refl ht, nofun⟩
  | ok directory =>
    simp only [hp] at h
    rcases h1 : f.call directory (fun d => d.makeDirectories directory) with ⟨e | u, f1⟩ <;>
      have hl1 := makeDirectories_leaves ht h1 <;> simp only [h1] at h
    · obtain ⟨rfl, rfl⟩ := Prod.mk.inj h
      exact ⟨hl1.of_none, nofun⟩
    rcases h2 : f1.call f1.stagingPath (fun d => d.makeDirectories f1.stagingPath)
      with ⟨e | u, f2⟩ <;>
      have hl2 := hl1.trans (makeDirectories_leaves hl1.isTree h2) <;> simp only [h2] at h
    · obtain ⟨rfl, rfl⟩ := Prod.mk.inj h
      exact ⟨hl2.of_none, nofun⟩
    cases hpath : f2.entryPath key with
    | error e =>
      simp only [hpath] at h
      obtain ⟨rfl, rfl⟩ := Prod.mk.inj h
      exact ⟨hl2.of_none, nofun⟩
    | ok path =>
      simp only [hpath] at h
      obtain ⟨hl3, hstored⟩ := replaceFile_spec hl2.isTree hpath h
      exact ⟨hl2.of_none.trans hl3, hstored⟩

/-! ## Removing -/

/-- A removal touches its key only, and leaves no text there if it succeeds. -/
theorem remove_spec {outcome : Outcome Bool} (ht : f.disk.tree.IsTree)
    (h : f.remove key = (outcome, f')) :
    Leaves (· = key) f f' ∧
      (f.disk.Honest → ∀ existed, outcome = .ok existed → f'.stored? key = none) := by
  unfold remove at h
  cases hp : f.entryPath key with
  | error e =>
    simp only [hp] at h
    obtain ⟨rfl, rfl⟩ := Prod.mk.inj h
    exact ⟨Leaves.refl ht, nofun⟩
  | ok path =>
    simp only [hp] at h
    rcases hc : f.callFound path (fun d => d.change (removeFile d.now path)) with ⟨found, after⟩
    rw [hc] at h
    obtain ⟨rfl, rfl⟩ := Prod.mk.inj h
    obtain ⟨hafter, hsome, hnone⟩ := callFound_cases hc
    have hlayout : after.toTextLayout = f.toTextLayout := by rw [hafter]
    have hdisk : after.disk = (f.disk.change (removeFile f.disk.now path)).2 := by rw [hafter]
    have hl : Leaves (· = key) f after := by
      apply Leaves.of_disk hlayout ht
      · rw [hdisk]
        exact Disk.removeFile_leaves ht _ path
      · rintro k q hk rfl
        exact entryPath_inj hk hp
    refine ⟨hl, ?_⟩
    intro hd existed hok
    -- whether the file was removed now or was not there, nothing stands at its path
    have hgone : after.disk.tree.content? path = none := by
      cases found with
      | error e => cases hok
      | ok found =>
        rcases callFound_change (removeFile · path) hd hc with hdone | ⟨htree, hmissing⟩
        · simp [(removeFile_eq_ok ht hdone).2]
        · rw [htree]
          exact content?_of_removeFile_notFound ht hmissing
    rw [(entryPath_eq_ok hp).1] at hgone
    rw [← hl.root] at hgone
    exact stored?_eq_none hl.isTree hgone

/-! ## Clearing -/

/-- Listing leaves everything alone. -/
theorem names_leaves {outcome : Outcome (List String)} {path : TreePath} {directories : Bool}
    (ht : f.disk.tree.IsTree) (h : f.names path directories = (outcome, f')) :
    Leaves (fun _ => False) f f' ∧ f'.disk.tree = f.disk.tree := by
  unfold names at h
  rcases hc : f.callFound path (fun d => d.look fun t => t.list path) with ⟨found, after⟩
  rw [hc] at h
  obtain ⟨rfl, rfl⟩ := Prod.mk.inj h
  obtain ⟨hafter, -, -⟩ := callFound_cases hc
  rw [hafter]
  exact ⟨Leaves.of_tree_eq ht rfl rfl rfl, rfl⟩

/-- The directories that are named are all those there are. -/
theorem mem_names {all : List String} {path : TreePath} {name : String} (ht : f.disk.tree.IsTree)
    (hd : f.disk.Honest) (h : f.names path true = (.ok all, f'))
    (hdir : f.disk.tree.content? (path ++ [name]) = some .directory) : name ∈ all := by
  unfold names at h
  rcases hc : f.callFound path (fun d => d.look fun t => t.list path) with ⟨found, after⟩
  rw [hc] at h
  obtain ⟨ho, rfl⟩ := Prod.mk.inj h
  obtain ⟨-, hsome, hnone⟩ := callFound_cases hc
  obtain ⟨n, hn, hcontent⟩ := Option.map_eq_some_iff.1 hdir
  rcases found with e | _ | children
  · cases ho
  · -- nothing stands below a path that is missing
    have hmissing := (list_cases ht).2 (Disk.look_eq_notFound hd (hnone rfl))
    have := Rooted.nothing_below ht path (by rw [hmissing]; simp) name
    rw [this] at hdir
    cases hdir
  · have hall := (list_cases ht).1 _ (Disk.look_eq_ok (hsome children rfl))
    have hmem : (name, true) ∈ children := by
      rw [hall, ← (isDirectory_iff n).2 hcontent]
      exact mem_children hn
    rw [← Except.ok.inj ho]
    exact List.mem_filterMap.2 ⟨(name, true), hmem, by simp⟩

/-- Removing the files of a directory touches files in it only. -/
theorem removeEach_leaves {outcome : Outcome Unit} {directory : TreePath} {all : List String}
    (ht : f.disk.tree.IsTree) (h : f.removeEach directory all = (outcome, f')) :
    f'.toTextLayout = f.toTextLayout ∧
      Disk.Leaves (fun q => ∃ name, q = directory ++ [name]) f.disk f'.disk := by
  induction all generalizing f with
  | nil =>
    obtain ⟨rfl, rfl⟩ := Prod.mk.inj h
    exact ⟨rfl, Disk.Leaves.of_tree_eq ht rfl rfl⟩
  | cons name rest ih =>
    unfold removeEach at h
    rcases hc : f.call (directory ++ [name])
      (fun d => d.change (removeFile d.now (directory ++ [name]))) with ⟨removed, after⟩
    obtain ⟨hafter, -⟩ := call_eq hc
    have hlayout : after.toTextLayout = f.toTextLayout := by rw [hafter]
    have hl : Disk.Leaves (fun q => ∃ name, q = directory ++ [name]) f.disk after.disk := by
      rw [hafter]
      exact (Disk.removeFile_leaves ht _ _).mono fun q hq => ⟨name, hq⟩
    cases removed with
    | error e =>
      simp only [hc] at h
      obtain ⟨rfl, rfl⟩ := Prod.mk.inj h
      exact ⟨hlayout, hl⟩
    | ok u =>
      simp only [hc] at h
      obtain ⟨hlayout', hl'⟩ := ih hl.isTree h
      exact ⟨hlayout'.trans hlayout, hl.trans hl'⟩

/-- Removing files of the directory of a type touches texts of the type only. -/
theorem removeEach_texts {outcome : Outcome Unit} {textType : String} {directory : TreePath}
    {all : List String} (ht : f.disk.tree.IsTree) (hform : directory = f.root ++ [textType])
    (h : f.removeEach directory all = (outcome, f')) :
    Leaves (fun k => k.textType = textType) f f' := by
  obtain ⟨hlayout, hdisk⟩ := removeEach_leaves ht h
  apply Leaves.of_disk hlayout ht hdisk
  rintro k q hk ⟨name, hq⟩
  -- a key whose file was in the directory has the type of the directory
  rw [(entryPath_eq_ok hk).1, hform] at hq
  simpa using (List.append_inj' hq rfl).1

/-- Removing the directory of a type touches texts of the type only, and leaves none if it
succeeds. -/
theorem removeDirectory_texts {outcome : Outcome (Option Unit)} {textType : String}
    {directory : TreePath} (ht : f.disk.tree.IsTree) (hform : directory = f.root ++ [textType])
    (h : f.callFound directory (fun d => d.change (removeDirectory d.now directory)) =
      (outcome, f')) :
    Leaves (fun k => k.textType = textType) f f' ∧
      (f.disk.Honest → ∀ found, outcome = .ok found →
        ∀ k : TextKey, k.textType = textType → f'.stored? k = none) := by
  obtain ⟨hf', -, -⟩ := callFound_cases h
  have hlayout : f'.toTextLayout = f.toTextLayout := by rw [hf']
  have hne : directory ≠ [] := by simp [hform]
  have hl : Leaves (fun k => k.textType = textType) f f' := by
    have hdisk : Disk.Leaves (· = directory) f.disk f'.disk := by
      rw [hf']
      exact Disk.removeDirectory_leaves ht _ hne
    apply Leaves.of_disk hlayout ht hdisk
    intro k q hk hq
    -- a text has two names below the root, the directory only one
    have := congrArg List.length ((entryPath_eq_ok hk).1.symm.trans (hq.trans hform))
    simp at this
  refine ⟨hl, ?_⟩
  rintro hd found rfl k hk
  have hgone : f'.disk.tree.content? directory = none := by
    rcases callFound_change (removeDirectory · directory) hd h with hdone | ⟨htree, hmissing⟩
    · simp [(removeDirectory_eq_ok hne hdone).2]
    · rw [htree]
      exact content?_of_removeDirectory_notFound ht hmissing
  -- without the directory no file of the type can be there
  have hbelow := Rooted.nothing_below hl.isTree directory (by rw [hgone]; simp) k.id
  apply stored?_eq_none hl.isTree
  rw [hl.root, hk, ← hform]
  exact hbelow

/-- A clearing touches the texts of its type only, and leaves none of them if it succeeds. -/
theorem clear_spec {textType : String} {outcome : Outcome Nat} (ht : f.disk.tree.IsTree)
    (h : f.clear textType = (outcome, f')) :
    Leaves (fun k => k.textType = textType) f f' ∧
      (f.disk.Honest → ∀ n, outcome = .ok n →
        ∀ k : TextKey, k.textType = textType → f'.stored? k = none) := by
  -- the directory is listed, its files are removed, and then the directory itself
  unfold clear at h
  cases hp : f.typePath textType with
  | error e =>
    simp only [hp] at h
    obtain ⟨rfl, rfl⟩ := Prod.mk.inj h
    exact ⟨Leaves.refl ht, nofun⟩
  | ok directory =>
    simp only [hp] at h
    have hform := (typePath_eq_ok hp).1
    rcases h1 : f.names directory false with ⟨e | ids, f1⟩ <;>
      have hl1 := (names_leaves ht h1).1 <;> simp only [h1] at h
    · obtain ⟨rfl, rfl⟩ := Prod.mk.inj h
      exact ⟨hl1.of_none, nofun⟩
    rcases h2 : f1.removeEach directory ids with ⟨removed, f2⟩
    have hremoved : Leaves (fun k => k.textType = textType) f1 f2 :=
      removeEach_texts hl1.isTree (by rw [hform, hl1.root]) h2
    have hl2 : Leaves (fun k => k.textType = textType) f f2 := hl1.of_none.trans hremoved
    cases removed with
    | error e =>
      simp only [h2] at h
      obtain ⟨rfl, rfl⟩ := Prod.mk.inj h
      exact ⟨hl2, nofun⟩
    | ok u =>
      simp only [h2] at h
      rcases h3 : f2.callFound directory (fun d => d.change (removeDirectory d.now directory))
        with ⟨found, f3⟩
      rw [h3] at h
      obtain ⟨rfl, rfl⟩ := Prod.mk.inj h
      obtain ⟨hl3, hgone⟩ := removeDirectory_texts hl2.isTree (by rw [hform, hl2.root]) h3
      refine ⟨hl2.trans hl3, ?_⟩
      intro hd n hok
      cases found with
      | error e => cases hok
      | ok found => exact hgone (hl2.honest hd) found rfl

/-- Clearing types leaves no text of them, and brings none back of others. -/
theorem clearEach_spec {types : List String} {count n : Nat} (ht : f.disk.tree.IsTree)
    (hd : f.disk.Honest) (h : f.clearEach count types = (.ok n, f')) :
    Leaves (fun _ => True) f f' ∧
      ∀ k : TextKey, k.textType ∈ types ∨ f.stored? k = none → f'.stored? k = none := by
  induction types generalizing f count with
  | nil =>
    obtain ⟨-, rfl⟩ := Prod.mk.inj h
    exact ⟨Leaves.refl ht, by simp⟩
  | cons textType rest ih =>
    unfold clearEach at h
    rcases hc : f.clear textType with ⟨e | m, after⟩ <;> simp only [hc] at h
    · cases h
    obtain ⟨hl, hgone⟩ := clear_spec ht hc
    obtain ⟨hrest, hnone⟩ := ih hl.isTree (hl.honest hd) h
    refine ⟨(hl.mono fun _ _ => trivial).trans hrest, ?_⟩
    intro k hk
    apply hnone
    by_cases htype : k.textType = textType
    · exact .inr (hgone hd m rfl k htype)
    · -- clearing another type has left the text alone
      rcases hk with hk | hk
      · exact .inl ((List.mem_cons.1 hk).resolve_left htype)
      · exact .inr ((hl.texts k htype).trans hk)

/-- Clearing everything leaves no text if it succeeds. -/
theorem clearAll_spec {outcome : Outcome Nat} (ht : f.disk.tree.IsTree)
    (h : f.clearAll = (outcome, f')) (hd : f.disk.Honest) (n : Nat) (hok : outcome = .ok n) :
    Leaves (fun _ => True) f f' ∧ ∀ k, f'.stored? k = none := by
  subst hok
  unfold clearAll textTypes at h
  rcases hn : f.names f.root true with ⟨e | all, f1⟩
  · simp only [hn, Except.map] at h
    cases h
  · obtain ⟨hl1, htree⟩ := names_leaves ht hn
    simp only [hn, Except.map] at h
    obtain ⟨hl2, hnone⟩ := clearEach_spec hl1.isTree (hl1.honest hd) h
    refine ⟨(hl1.mono fun _ _ => trivial).trans hl2, ?_⟩
    intro k
    apply hnone
    by_cases hdir : f.disk.tree.content? (f.root ++ [k.textType]) = some .directory
    · by_cases htype : k.textType = TextName.staging
      · -- no key has a file in the staging directory
        right
        unfold stored?
        cases hp : f1.entryPath k with
        | error e => rfl
        | ok path => exact absurd htype (entryPath_eq_ok hp).2
      · exact .inl (List.mem_filter.2 ⟨mem_names ht hd hn hdir, by simpa using htype⟩)
    · -- a type without a directory has no texts to clear
      right
      apply stored?_eq_none hl1.isTree
      rw [htree, hl1.root]
      exact Rooted.nothing_below ht _ hdir k.id

end Operations

end TextFiles
end CacheService
