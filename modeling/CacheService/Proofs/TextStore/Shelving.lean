import CacheService.Proofs.TextStore.Calls
import CacheService.Proofs.TextStore.Shelves

/-!
# Texts in files as shelves

On a disk that does what it is asked to, a cache of texts in files answers every request as shelves
do. `Holds` says which files are there for what is on the shelves. The staging directory is none of
the types, and is empty between two requests.
-/

namespace CacheService
namespace TextFiles

open FileTree Outcome Function

/-! ## Files for what is on the shelves -/

/-- A key has a file just if it is permitted. -/
theorem entryPath_eq (f : TextFiles) (key : TextKey) :
    f.entryPath key =
      (Shelves.permit key).map fun _ => f.root ++ [key.textType] ++ [key.id] := by
  unfold entryPath Shelves.permit
  rw [typePath_eq]
  cases TextName.check "id" key.id with
  | error e => rfl
  | ok u => cases TextName.checkType key.textType <;> rfl

/-- Where there is room for them, plain names are accepted. -/
theorem nameable_concat_of_plain {t : FileTree} {dir : TreePath} {name : String}
    (h : t.Nameable dir) (hroom : t.basePath.utf8ByteSize + pathSize dir + 11 ≤ longestPath)
    (hplain : Staging.Plain name) : t.Nameable (dir ++ [name]) := by
  obtain ⟨hsize, hnul⟩ := hplain
  constructor
  · have hclean : hasNul (dir ++ [name]) = false := by
      have hdir := h.hasNul_eq_false
      unfold hasNul at hdir ⊢
      rw [List.any_append, hdir]
      simpa using fun c hc => ne_of_mem_of_not_mem hc hnul
    have hlength : pathSize (dir ++ [name]) = pathSize dir + 1 + name.utf8ByteSize := by
      simp [pathSize]
    have hfits : ¬ longestPath < t.basePath.utf8ByteSize + pathSize (dir ++ [name]) := by omega
    simp [checkPath, hclean, hfits]
  · intro other hmem
    rcases List.mem_append.1 hmem with hmem | hmem
    · exact h.2 other hmem
    · have hlongest : longestName = 255 := rfl
      rw [List.mem_singleton.1 hmem]
      omega

def fileOf (packing : Packing) (shelved : Shelved) : Item :=
  .file (packing.pack (Text.bytes shelved.text)) shelved.time

/-- The disk does what it is asked to, and has the files of what is on the shelves, and no others.
The file system accepts all names that are used. -/
structure Holds (f : TextFiles) (s : Shelves) : Prop where
  reliable : f.disk.Reliable
  isTree : f.disk.tree.IsTree
  root : f.disk.tree.item? f.root = some .directory
  types : ∀ t, t ≠ TextName.staging →
    f.disk.tree.item? (f.root ++ [t]) = if t ∈ s then some .directory else none
  texts : ∀ key : TextKey, key.textType ≠ TextName.staging →
    f.disk.tree.item? (f.root ++ [key.textType] ++ [key.id]) = (s.at? key).map (fileOf f.packing)
  staging : f.disk.tree.item? f.stagingPath = none ∨
    f.disk.tree.item? f.stagingPath = some .directory
  staged : ∀ name, f.disk.tree.item? (f.stagingPath ++ [name]) = none
  permitted : ∀ t ∈ s, TextName.checkType t = .ok ()
  typeNames : ∀ t ∈ s, f.disk.tree.Nameable (f.root ++ [t])
  textNames : ∀ key : TextKey, (s.at? key).isSome →
    f.disk.tree.Nameable (f.root ++ [key.textType] ++ [key.id])
  stagedNames : ∀ name, Staging.Plain name → f.disk.tree.Nameable (f.stagingPath ++ [name])

/-- The file system accepts the names in a request as far as they are not refused before. -/
def Accepts (f : TextFiles) : TextRequest → Prop
  | .get key | .getLines key | .getOrInsert key _ | .put key _ | .remove key | .age key
  | .modified key => ∀ path, f.entryPath key = .ok path → f.disk.tree.Nameable path
  | .clear textType | .ids textType =>
    ∀ path, f.typePath textType = .ok path → f.disk.tree.Nameable path
  | .clearAll | .textTypes => True

/-- An operation answers, in no time, and leaves the files of what is on the shelves then. -/
def Serves {α : Type} (f : TextFiles) (result : Outcome α × TextFiles) (answer : Outcome α)
    (s : Shelves) : Prop :=
  ∃ d : Disk, result = (answer, { f with disk := d }) ∧ d.now = f.disk.now ∧
    d.tree.basePath = f.disk.tree.basePath ∧ Holds { f with disk := d } s

section Files

variable {f : TextFiles} {s : Shelves} {key : TextKey} {textType : String}

theorem checkType_of_permit (h : Shelves.permit key = .ok ()) :
    TextName.checkType key.textType = .ok () := by
  obtain ⟨u, -, htype⟩ := bind_eq_ok_iff.1 h
  exact htype

namespace Holds

/-- Further calls on the same tree change nothing. -/
theorem of_tree_eq (h : f.Holds s) {d : Disk} (htree : d.tree = f.disk.tree)
    (hfault : d.fault = f.disk.fault) : Holds { f with disk := d } s where
  reliable := by
    intro call
    rw [hfault]
    exact h.reliable call
  isTree := by rw [htree]; exact h.isTree
  root := by rw [htree]; exact h.root
  types := by rw [htree]; exact h.types
  texts := by rw [htree]; exact h.texts
  staging := by rw [htree]; exact h.staging
  staged := by rw [htree]; exact h.staged
  permitted := h.permitted
  typeNames := by rw [htree]; exact h.typeNames
  textNames := by rw [htree]; exact h.textNames
  stagedNames := by rw [htree]; exact h.stagedNames

/-- An operation that has left the tree alone serves what it answers. -/
theorem serves_of_tree_eq {α : Type} (h : f.Holds s) {d : Disk} {answer : Outcome α}
    (htree : d.tree = f.disk.tree) (hfault : d.fault = f.disk.fault) (hnow : d.now = f.disk.now) :
    Serves f (answer, { f with disk := d }) answer s :=
  ⟨d, rfl, hnow, by rw [htree], h.of_tree_eq htree hfault⟩

/-- An operation that is refused has done nothing. -/
theorem refused {α : Type} (h : f.Holds s) (e : CacheError) :
    Serves f ((.error e : Outcome α), f) (.error e) s :=
  h.serves_of_tree_eq rfl rfl rfl

theorem ne_staging (h : f.Holds s) (ht : textType ∈ s) : textType ≠ TextName.staging :=
  ne_staging_of_checkType (h.permitted textType ht)

theorem stagingName (h : f.Holds s) : f.disk.tree.Nameable f.stagingPath :=
  (h.stagedNames "" (by unfold Staging.Plain; decide)).above

theorem rootName (h : f.Holds s) : f.disk.tree.Nameable f.root :=
  h.stagingName.above

theorem content?_root (h : f.Holds s) : f.disk.tree.content? f.root = some .directory :=
  item?_eq_directory_iff.1 h.root

theorem content?_type (h : f.Holds s) (ht : textType ∈ s) :
    f.disk.tree.content? (f.root ++ [textType]) = some .directory := by
  rw [← item?_eq_directory_iff, h.types textType (h.ne_staging ht), if_pos ht]

theorem content?_missing_type (h : f.Holds s) (hne : textType ≠ TextName.staging)
    (ht : textType ∉ s) : f.disk.tree.content? (f.root ++ [textType]) = none := by
  rw [← item?_eq_none_iff, h.types textType hne, if_neg ht]

theorem unblocked_type (h : f.Holds s) (hne : textType ≠ TextName.staging) :
    f.disk.tree.Unblocked (f.root ++ [textType]) := by
  by_cases ht : textType ∈ s
  · exact unblocked_of_directory h.isTree (h.content?_type ht)
  · exact (unblocked_of_directory h.isTree h.content?_root).missing (h.content?_missing_type hne ht)

theorem content?_missing (h : f.Holds s) (hnone : s.at? key = none)
    (hne : key.textType ≠ TextName.staging) :
    f.disk.tree.content? (f.root ++ [key.textType] ++ [key.id]) = none := by
  rw [← item?_eq_none_iff, h.texts key hne, hnone]
  rfl

/-- What is not on the shelves is not found on the disk. -/
theorem find_missing (h : f.Holds s) (hne : key.textType ≠ TextName.staging)
    (hname : f.disk.tree.Nameable (f.root ++ [key.textType] ++ [key.id]))
    (hnone : s.at? key = none) :
    f.disk.tree.find (f.root ++ [key.textType] ++ [key.id]) = .error .notFound := by
  have hmissing := h.content?_missing hnone hne
  exact find_notFound hname ((h.unblocked_type hne).missing hmissing) hmissing

end Holds

/-! ## Looking at texts -/

theorem entryPath_of_permit (h : Shelves.permit key = .ok ()) :
    f.entryPath key = .ok (f.root ++ [key.textType] ++ [key.id]) := by
  rw [entryPath_eq, h]
  rfl

theorem entryPath_of_refused {e : CacheError} (h : Shelves.permit key = .error e) :
    f.entryPath key = .error e := by
  rw [entryPath_eq, h]
  rfl

namespace Holds

/-- A call that looks at the file of a key answers what the file says, if there is one. -/
theorem callFound_look {α : Type} (h : f.Holds s) (hne : key.textType ≠ TextName.staging)
    (hname : f.disk.tree.Nameable (f.root ++ [key.textType] ++ [key.id]))
    {look : FileTree → Except IoError α} {g : Shelved → α}
    (hsome : ∀ n shelved, f.disk.tree.find (f.root ++ [key.textType] ++ [key.id]) = .ok n →
      n.item = fileOf f.packing shelved → look f.disk.tree = .ok (g shelved))
    (hnone : f.disk.tree.find (f.root ++ [key.textType] ++ [key.id]) = .error .notFound →
      look f.disk.tree = .error .notFound) :
    f.callFound (f.root ++ [key.textType] ++ [key.id]) (fun d => d.look look) =
      (.ok ((s.at? key).map g), { f with disk := { f.disk with calls := f.disk.calls + 1 } }) := by
  cases hat : s.at? key with
  | none =>
    -- the directory of the type may be missing as well
    have hmissing := hnone (h.find_missing hne hname hat)
    apply callFound_of_notFound
    rw [Disk.look_of_reliable h.reliable, hmissing]
  | some shelved =>
    have hitem := h.texts key hne
    rw [hat] at hitem
    obtain ⟨n, hn, hfile⟩ := Option.map_eq_some_iff.1 hitem
    have hfound := hsome n shelved ((find_eq_ok_iff h.isTree).2 ⟨hname, hn⟩) hfile
    apply callFound_of_ok
    rw [Disk.look_of_reliable h.reliable, hfound]

/-- The text on the shelf is found, or nothing. -/
theorem find (h : f.Holds s)
    (hname : ∀ path, f.entryPath key = .ok path → f.disk.tree.Nameable path) :
    Serves f (f.find key) ((Shelves.permit key).map fun _ => (s.at? key).map Shelved.text) s := by
  cases hpermit : Shelves.permit key with
  | error e =>
    simp only [TextFiles.find, entryPath_of_refused hpermit]
    exact h.refused e
  | ok u =>
    have hpath := entryPath_of_permit (f := f) hpermit
    have hne := ne_staging_of_checkType (checkType_of_permit hpermit)
    have hcall : f.callFound (f.root ++ [key.textType] ++ [key.id])
        (fun d => d.look fun t => t.read (f.root ++ [key.textType] ++ [key.id])) =
        (.ok ((s.at? key).map fun shelved => f.packing.pack (Text.bytes shelved.text)),
          { f with disk := { f.disk with calls := f.disk.calls + 1 } }) := by
      apply h.callFound_look hne (hname _ hpath)
      · intro n shelved hfound hfile
        have hcontent : n.content = .file (f.packing.pack (Text.bytes shelved.text)) := by
          rw [← content_item, hfile]
          rfl
        simp only [FileTree.read, hfound, ok_bind, hcontent, pure_eq]
      · intro hmissing
        simp only [FileTree.read, hmissing, error_bind]
    simp only [TextFiles.find, hpath, hcall]
    cases s.at? key with
    | none => exact h.serves_of_tree_eq rfl rfl rfl
    | some shelved =>
      simp only [Option.map_some, textOf_pack]
      exact h.serves_of_tree_eq rfl rfl rfl

/-- The time of a text is that of its file. -/
theorem modified (h : f.Holds s)
    (hname : ∀ path, f.entryPath key = .ok path → f.disk.tree.Nameable path) :
    Serves f (f.modified key)
      ((Shelves.permit key).map fun _ => (s.at? key).map Shelved.time) s := by
  cases hpermit : Shelves.permit key with
  | error e =>
    simp only [TextFiles.modified, entryPath_of_refused hpermit]
    exact h.refused e
  | ok u =>
    have hpath := entryPath_of_permit (f := f) hpermit
    have hne := ne_staging_of_checkType (checkType_of_permit hpermit)
    have hcall : f.callFound (f.root ++ [key.textType] ++ [key.id])
        (fun d => d.look fun t =>
          (t.find (f.root ++ [key.textType] ++ [key.id])).map Node.modified) =
        (.ok ((s.at? key).map Shelved.time),
          { f with disk := { f.disk with calls := f.disk.calls + 1 } }) := by
      apply h.callFound_look hne (hname _ hpath)
      · intro n shelved hfound hfile
        -- only a file has the item of a text, and its time is that of its node
        have hmodified : n.modified = shelved.time := by
          unfold Node.item fileOf at hfile
          cases hc : n.content with
          | directory => simp [hc] at hfile
          | file bytes => simpa [hc] using (Item.file.inj (by simpa [hc] using hfile)).2
        rw [hfound, ← hmodified]
        rfl
      · intro hmissing
        rw [hmissing]
        rfl
    simp only [TextFiles.modified, hpath, hcall]
    exact h.serves_of_tree_eq rfl rfl rfl

/-- The age of a text is counted from when it was put. -/
theorem age (h : f.Holds s)
    (hname : ∀ path, f.entryPath key = .ok path → f.disk.tree.Nameable path) :
    Serves f (f.age key)
      (s.age (fun key => f.display (f.root ++ [key.textType, key.id])) f.disk.now key) s := by
  obtain ⟨d, hmodified, hnow, hbase, hholds⟩ := h.modified hname
  refine ⟨d, ?_, hnow, hbase, hholds⟩
  unfold TextFiles.age
  rw [hmodified, Shelves.age]
  cases Shelves.permit key with
  | error e => rfl
  | ok u =>
    simp only [Except.map, ok_bind]
    cases s.at? key with
    | none => rfl
    | some shelved =>
      have hpast : shelved.time - f.disk.now ≤ 0 ↔ shelved.time ≤ f.disk.now :=
        ⟨Int.le_of_sub_nonpos, Int.sub_nonpos_of_le⟩
      have hage : -(shelved.time - f.disk.now) = f.disk.now - shelved.time := Int.neg_sub _ _
      simp only [Option.map_some, hnow, hpast, hage]
      by_cases hle : shelved.time ≤ f.disk.now
      · simp only [hle, if_true, pure_eq]
      · simp only [hle, if_false, throw_eq]
        rfl

/-! ## Listing -/

/-- The files in the directory of a type are those of its texts. -/
theorem listed_files (h : f.Holds s) (hne : textType ≠ TextName.staging) :
    listed f.disk.tree (f.root ++ [textType]) false = (s.shelf textType).keys := by
  apply names_ext pairwise_listed Std.ExtTreeMap.ordered_keys
  intro id
  rw [mem_listed_files, Shelves.mem_keys_shelf, h.texts ⟨textType, id⟩ hne]
  cases s.at? ⟨textType, id⟩ with
  | none => simp
  | some shelved => simp [fileOf]

/-- The files in the directory of a type are the ids on its shelf. -/
theorem names_files (h : f.Holds s) (hne : textType ≠ TextName.staging)
    (hname : f.disk.tree.Nameable (f.root ++ [textType])) :
    Serves f (f.names (f.root ++ [textType]) false) (.ok (s.shelf textType).keys) s := by
  by_cases ht : textType ∈ s
  · rw [names_of_directory h.reliable h.isTree hname (h.content?_type ht), h.listed_files hne]
    exact h.serves_of_tree_eq rfl rfl rfl
  · -- a type without a directory has no texts
    rw [names_of_missing h.reliable hname (h.unblocked_type hne) (h.content?_missing_type hne ht),
      Shelves.shelf_of_not_mem ht]
    exact h.serves_of_tree_eq rfl rfl rfl

theorem ids (h : f.Holds s)
    (hname : ∀ path, f.typePath textType = .ok path → f.disk.tree.Nameable path) :
    Serves f (f.ids textType)
      ((TextName.checkType textType).map fun _ => (s.shelf textType).keys) s := by
  unfold TextFiles.ids
  rw [typePath_eq] at hname ⊢
  cases hcheck : TextName.checkType textType with
  | error e => exact h.refused e
  | ok u =>
    rw [hcheck] at hname
    exact h.names_files (ne_staging_of_checkType hcheck) (hname _ rfl)

/-- The directories of types are the shelves. -/
theorem textTypes (h : f.Holds s) : Serves f f.textTypes (.ok s.keys) s := by
  unfold TextFiles.textTypes
  rw [names_of_directory h.reliable h.isTree h.rootName h.content?_root]
  have hkeys : (listed f.disk.tree f.root true).filter (· != TextName.staging) = s.keys := by
    apply names_ext (pairwise_listed.filter _) Std.ExtTreeMap.ordered_keys
    intro t
    rw [List.mem_filter, mem_listed_directories, Std.ExtTreeMap.mem_keys]
    -- the staging directory is the only one that is not the directory of a type
    constructor
    · rintro ⟨hitem, hne⟩
      rw [h.types t (by simpa using hne)] at hitem
      by_cases ht : t ∈ s
      · exact ht
      · simp [ht] at hitem
    · intro ht
      rw [h.types t (h.ne_staging ht), if_pos ht]
      exact ⟨rfl, by simpa using h.ne_staging ht⟩
  simp only [Except.map, hkeys]
  exact h.serves_of_tree_eq rfl rfl rfl

/-! ## Writing -/

/-- The directory of a type, the staging directory and the file of a text make it shelved. -/
theorem of_put (h : f.Holds s) (hpermit : Shelves.permit key = .ok ())
    (hname : f.disk.tree.Nameable (f.root ++ [key.textType] ++ [key.id])) {d : Disk} {new : Shelved}
    (hd : Disk.Reaches f.disk d (update (update (update f.disk.tree.item?
      (f.root ++ [key.textType]) (some .directory)) f.stagingPath (some .directory))
      (f.root ++ [key.textType] ++ [key.id]) (some (fileOf f.packing new)))) :
    Holds { f with disk := d } (s.put key new) := by
  have hne := ne_staging_of_checkType (checkType_of_permit hpermit)
  -- what stands at a path then, the last change first
  have hitems : ∀ q, d.tree.item? q =
      if q = f.root ++ [key.textType] ++ [key.id] then some (fileOf f.packing new)
      else if q = f.stagingPath then some .directory
      else if q = f.root ++ [key.textType] then some .directory else f.disk.tree.item? q := by
    intro q
    simp only [hd.items, update_apply]
  constructor
  case reliable => exact hd.reliable h.reliable
  case isTree => exact hd.isTree
  case root =>
    rw [hitems, stagingPath]
    simp [h.root]
  case types =>
    intro t ht
    rw [hitems, h.types t ht, stagingPath]
    by_cases hsame : t = key.textType <;> simp [Shelves.mem_put, ht, hsame]
  case texts =>
    intro k hk
    rw [hitems, h.texts k hk, Shelves.at?_put, stagingPath]
    by_cases hsame : k = key
    · simp [hsame]
    · have hpath : ¬ (k.textType = key.textType ∧ k.id = key.id) := by
        rwa [← TextKey.eq_iff]
      simp [hsame, hpath]
  case staging =>
    right
    rw [hitems]
    simp [stagingPath]
  case staged =>
    intro name
    have hgone : f.disk.tree.item? (f.root ++ [TextName.staging, name]) = none := by
      simpa [stagingPath] using h.staged name
    rw [hitems]
    simp [stagingPath, hgone, Ne.symm hne]
  case permitted =>
    intro t ht
    rcases Shelves.mem_put.1 ht with rfl | ht
    · exact checkType_of_permit hpermit
    · exact h.permitted t ht
  case typeNames =>
    intro t ht
    rw [hd.nameable_iff]
    rcases Shelves.mem_put.1 ht with rfl | ht
    · exact hname.above
    · exact h.typeNames t ht
  case textNames =>
    intro k hk
    rw [hd.nameable_iff]
    rw [Shelves.at?_put] at hk
    by_cases hsame : k = key
    · rw [hsame]
      exact hname
    · rw [if_neg hsame] at hk
      exact h.textNames k hk
  case stagedNames =>
    intro name hplain
    exact (hd.nameable_iff _).2 (h.stagedNames name hplain)

/-- In an empty staging directory a plain name is chosen. -/
theorem plain_of_empty {f : TextFiles}
    (h : ∀ name, f.disk.tree.item? (f.stagingPath ++ [name]) = none) :
    Staging.Plain (f.staging.name f.disk f.stagingPath) := by
  apply f.staging.plain
  intro other
  have hnode : f.disk.tree.nodes[f.stagingPath ++ [other]]? = none := by
    rw [← node?_of_ne_nil _ (by simp)]
    simpa [item?] using h other
  rw [Std.ExtTreeMap.contains_eq_isSome_getElem?, hnode]
  rfl

/-- The directory of a type and the staging directory are made, or are there already. -/
theorem makeDirectories (h : f.Holds s) (hpermit : Shelves.permit key = .ok ())
    (hname : f.disk.tree.Nameable (f.root ++ [key.textType])) :
    ∃ d1 d2 : Disk, f.disk.makeDirectories (f.root ++ [key.textType]) = (.ok (), d1) ∧
      d1.makeDirectories f.stagingPath = (.ok (), d2) ∧
      Disk.Reaches f.disk d2 (update (update f.disk.tree.item? (f.root ++ [key.textType])
        (some .directory)) f.stagingPath (some .directory)) := by
  have hne : key.textType ≠ TextName.staging :=
    ne_staging_of_checkType (checkType_of_permit hpermit)
  have hfree : f.disk.tree.content? (f.root ++ [key.textType]) = none ∨
      f.disk.tree.content? (f.root ++ [key.textType]) = some .directory := by
    by_cases ht : key.textType ∈ s
    · exact .inr (h.content?_type ht)
    · exact .inl (h.content?_missing_type hne ht)
  obtain ⟨d1, hmake1, hr1⟩ := Disk.makeDirectories_of_directory h.reliable h.isTree hname
    h.content?_root hfree
  have hroot1 : d1.tree.content? f.root = some .directory := by
    rw [hr1.content?, update_of_ne (by simp), h.root]
    rfl
  have hstaging1 : d1.tree.item? f.stagingPath = f.disk.tree.item? f.stagingPath := by
    rw [hr1.items, update_of_ne (by simpa [stagingPath] using Ne.symm hne)]
  have hfree1 : d1.tree.content? f.stagingPath = none ∨
      d1.tree.content? f.stagingPath = some .directory := by
    rw [← item?_eq_none_iff, ← item?_eq_directory_iff, hstaging1]
    exact h.staging
  obtain ⟨d2, hmake2, hr2⟩ := Disk.makeDirectories_of_directory (hr1.reliable h.reliable)
    hr1.isTree ((hr1.nameable_iff _).2 h.stagingName) hroot1 hfree1
  refine ⟨d1, d2, hmake1, hmake2, ?_⟩
  have hr := hr1.trans hr2
  rwa [hr1.items] at hr

/-- A write puts the text on its shelf, at the time that the disk tells. -/
theorem write (h : f.Holds s) (hpermit : Shelves.permit key = .ok ())
    (hname : ∀ path, f.entryPath key = .ok path → f.disk.tree.Nameable path) (text : String) :
    Serves f (f.write key text) (.ok ()) (s.put key ⟨text, f.disk.now⟩) := by
  have hentry : f.disk.tree.Nameable (f.root ++ [key.textType] ++ [key.id]) :=
    hname _ (entryPath_of_permit hpermit)
  have hne : key.textType ≠ TextName.staging :=
    ne_staging_of_checkType (checkType_of_permit hpermit)
  obtain ⟨d1, d2, hmake1, hmake2, hr2⟩ := h.makeDirectories hpermit hentry.above
  -- with both directories there, the file is replaced with the help of a staged name
  have hstaging2 : d2.tree.item? f.stagingPath = some .directory := by
    rw [hr2.items, update_self]
  have htype2 : d2.tree.item? (f.root ++ [key.textType]) = some .directory := by
    rw [hr2.items, update_of_ne (by simpa [stagingPath] using hne), update_self]
  have hempty2 : ∀ name, d2.tree.item? (f.stagingPath ++ [name]) = none := by
    intro name
    rw [hr2.items, update_of_ne (by simp), update_of_ne (by simp [stagingPath])]
    exact h.staged name
  obtain ⟨staged, hstaged, hplain⟩ : ∃ name,
      stagedPath { f with disk := d2 } = f.stagingPath ++ [name] ∧ Staging.Plain name :=
    ⟨_, rfl, plain_of_empty (f := { f with disk := d2 }) hempty2⟩
  have hfree2 : d2.tree.item? (f.root ++ [key.textType] ++ [key.id]) ≠ some .directory := by
    rw [hr2.items, update_of_ne (by simp [stagingPath]), update_of_ne (by simp), h.texts key hne]
    cases s.at? key <;> simp [fileOf]
  obtain ⟨d3, hreplace, hr3⟩ := Disk.replaceFile_of_directories (hr2.reliable h.reliable)
    hr2.isTree (f.packing.pack (Text.bytes text))
    ((hr2.nameable_iff _).2 (h.stagedNames staged hplain)) ((hr2.nameable_iff _).2 hentry)
    (item?_eq_directory_iff.1 hstaging2) (item?_eq_directory_iff.1 htype2)
    (item?_eq_none_iff.1 (hempty2 staged)) (item?_eq_directory_iff.not.1 hfree2)
    (by simp [stagingPath, hne])
  have hr := hr2.trans hr3
  rw [hr2.items, hr2.now] at hr
  refine ⟨d3, ?_, hr.now, hr.basePath, h.of_put hpermit hentry hr⟩
  -- these are the calls that are made
  have htype : f.typePath key.textType = .ok (f.root ++ [key.textType]) := by
    rw [typePath_eq, checkType_of_permit hpermit]
    rfl
  have hcall1 : f.call (f.root ++ [key.textType])
      (fun d => d.makeDirectories (f.root ++ [key.textType])) = (.ok (), { f with disk := d1 }) :=
    call_of_ok hmake1
  have hcall2 : call { f with disk := d1 } f.stagingPath
      (fun d => d.makeDirectories f.stagingPath) = (.ok (), { f with disk := d2 }) :=
    call_of_ok hmake2
  have hcall3 : call { f with disk := d2 } (f.root ++ [key.textType] ++ [key.id])
      (fun d => d.replaceFile (f.stagingPath ++ [staged])
        (f.root ++ [key.textType] ++ [key.id]) (f.packing.pack (Text.bytes text))) =
      (.ok (), { f with disk := d3 }) :=
    call_of_ok hreplace
  have hpath : entryPath { f with disk := d2 } key =
      .ok (f.root ++ [key.textType] ++ [key.id]) := entryPath_of_permit hpermit
  simp only [TextFiles.write, htype, hcall1]
  rw [show stagingPath { f with disk := d1 } = f.stagingPath from rfl, hcall2]
  simp only [hpath, hstaged, hcall3]

/-! ## Removing -/

/-- What goes from the directory of a type, or with it, leaves all else as it is. -/
theorem of_gone (h : f.Holds s) (hne : textType ≠ TextName.staging) {d : Disk}
    (hd : Disk.Reaches f.disk d d.tree.item?)
    (hothers : ∀ q, ¬ (f.root ++ [textType]) <+: q → d.tree.item? q = f.disk.tree.item? q)
    {s' : Shelves} (hmem : ∀ t, t ∈ s' → t ∈ s)
    (hat : ∀ k, (s'.at? k).isSome → (s.at? k).isSome)
    (htypes : ∀ t, t ≠ textType → (t ∈ s' ↔ t ∈ s))
    (htexts : ∀ k : TextKey, k.textType ≠ textType → s'.at? k = s.at? k)
    (htype : d.tree.item? (f.root ++ [textType]) =
      if textType ∈ s' then some .directory else none)
    (hids : ∀ id, d.tree.item? (f.root ++ [textType] ++ [id]) =
      (s'.at? ⟨textType, id⟩).map (fileOf f.packing)) :
    Holds { f with disk := d } s' where
  reliable := hd.reliable h.reliable
  isTree := hd.isTree
  root := by
    have hshort : ¬ (f.root ++ [textType]) <+: f.root := by
      intro hprefix
      have hlength := hprefix.length_le
      rw [List.length_append, List.length_singleton] at hlength
      omega
    rw [hothers _ hshort]
    exact h.root
  types := by
    intro t ht
    by_cases hsame : t = textType
    · rw [hsame]
      exact htype
    · rw [hothers _ (by simpa using Ne.symm hsame), h.types t ht]
      simp only [htypes t hsame]
  texts := by
    rintro ⟨t, id⟩ ht
    by_cases hsame : t = textType
    · rw [hsame]
      exact hids id
    · rw [htexts _ hsame, ← h.texts _ ht]
      exact hothers _ (by simpa using Ne.symm hsame)
  staging := by
    have hkept := hothers f.stagingPath (by simpa [stagingPath] using hne)
    show d.tree.item? f.stagingPath = none ∨ d.tree.item? f.stagingPath = some .directory
    rw [hkept]
    exact h.staging
  staged := by
    intro name
    have hkept := hothers (f.stagingPath ++ [name]) (by simpa [stagingPath] using hne)
    exact hkept.trans (h.staged name)
  permitted := fun t ht => h.permitted t (hmem t ht)
  typeNames := fun t ht => (hd.nameable_iff _).2 (h.typeNames t (hmem t ht))
  textNames := fun k hk => (hd.nameable_iff _).2 (h.textNames k (hat k hk))
  stagedNames := fun name hplain => (hd.nameable_iff _).2 (h.stagedNames name hplain)

/-- To remove the file of a text takes it from its shelf. -/
theorem removeFile (h : f.Holds s) (hat : (s.at? key).isSome)
    (hne : key.textType ≠ TextName.staging) :
    ∃ d, f.disk.change (FileTree.removeFile f.disk.now (f.root ++ [key.textType] ++ [key.id])) =
      (.ok (), d) ∧ d.now = f.disk.now ∧ d.tree.basePath = f.disk.tree.basePath ∧
        Holds { f with disk := d } (s.remove key) := by
  obtain ⟨shelved, hshelved⟩ := Option.isSome_iff_exists.1 hat
  have hfile : f.disk.tree.content? (f.root ++ [key.textType] ++ [key.id]) =
      some (.file (f.packing.pack (Text.bytes shelved.text))) := by
    rw [content?_eq_map_item?, h.texts key hne, hshelved]
    rfl
  obtain ⟨d, hchange, hd⟩ := Disk.change_of_ok h.reliable (keepsBase_removeFile _ _)
    (removeFile_of_file f.disk.now h.isTree (h.textNames key hat) hfile)
  refine ⟨d, hchange, hd.now, hd.basePath, ?_⟩
  -- the file is all that goes
  have hothers : ∀ q, q ≠ f.root ++ [key.textType] ++ [key.id] →
      d.tree.item? q = f.disk.tree.item? q := by
    intro q hq
    rw [hd.items, update_of_ne hq]
  apply h.of_gone hne ⟨hd.now, hd.fault, hd.isTree, hd.basePath, rfl⟩
  case hothers =>
    intro q hq
    apply hothers
    rintro rfl
    exact hq (List.prefix_append _ _)
  case hmem => exact fun t ht => Shelves.mem_remove.1 ht
  case hat =>
    intro k hk
    rw [Shelves.at?_remove] at hk
    by_cases hsame : k = key
    · rwa [hsame]
    · rwa [if_neg hsame] at hk
  case htypes => exact fun t _ => Shelves.mem_remove
  case htexts =>
    intro k hk
    rw [Shelves.at?_remove, if_neg]
    rintro rfl
    exact hk rfl
  case htype =>
    rw [hothers _ (by simp), h.types _ hne]
    simp only [Shelves.mem_remove]
  case hids =>
    intro id
    rw [Shelves.at?_remove]
    by_cases hsame : (⟨key.textType, id⟩ : TextKey) = key
    · have hid : id = key.id := congrArg TextKey.id hsame
      rw [if_pos hsame, hd.items, hid, update_self]
      rfl
    · rw [if_neg hsame, ← h.texts ⟨key.textType, id⟩ hne]
      rw [TextKey.eq_iff] at hsame
      exact hothers _ (by simpa using hsame)

/-- A removal answers whether the text was on its shelf. -/
theorem remove (h : f.Holds s) (hpermit : Shelves.permit key = .ok ())
    (hname : ∀ path, f.entryPath key = .ok path → f.disk.tree.Nameable path) :
    Serves f (f.remove key) (.ok (s.at? key).isSome) (s.remove key) := by
  have hpath := entryPath_of_permit (f := f) hpermit
  have hne := ne_staging_of_checkType (checkType_of_permit hpermit)
  simp only [TextFiles.remove, hpath]
  cases hat : (s.at? key).isSome with
  | true =>
    obtain ⟨d, hchange, hnow, hbase, hholds⟩ := h.removeFile hat hne
    have hcall : f.callFound (f.root ++ [key.textType] ++ [key.id]) (fun d =>
        d.change (FileTree.removeFile d.now (f.root ++ [key.textType] ++ [key.id]))) =
        (.ok (some ()), { f with disk := d }) := callFound_of_ok hchange
    rw [hcall]
    exact ⟨d, rfl, hnow, hbase, hholds⟩
  | false =>
    -- a file that is missing is no failure, and there is nothing to take from the shelf
    have hnone : s.at? key = none := by simpa using hat
    have hmissing : FileTree.removeFile f.disk.now (f.root ++ [key.textType] ++ [key.id])
        f.disk.tree = .error .notFound := by
      rw [FileTree.removeFile, h.find_missing hne (hname _ hpath) hnone]
      rfl
    have hcall : f.callFound (f.root ++ [key.textType] ++ [key.id]) (fun d =>
        d.change (FileTree.removeFile d.now (f.root ++ [key.textType] ++ [key.id]))) =
        (.ok none, { f with disk := { f.disk with calls := f.disk.calls + 1 } }) :=
      callFound_of_notFound (Disk.change_of_error h.reliable hmissing)
    rw [hcall, Shelves.remove_of_missing hnone]
    exact h.serves_of_tree_eq rfl rfl rfl

/-! ## Clearing -/

/-- To clear a type takes its shelf away, and answers how many texts were on it. -/
theorem clear (h : f.Holds s) (hcheck : TextName.checkType textType = .ok ())
    (hname : f.disk.tree.Nameable (f.root ++ [textType])) :
    Serves f (f.clear textType) (.ok (s.shelf textType).size) (s.erase textType) := by
  have hne := ne_staging_of_checkType hcheck
  by_cases ht : textType ∈ s
  · -- all that stands in the directory are the files of texts
    have hfiles : ∀ id c, f.disk.tree.content? (f.root ++ [textType] ++ [id]) = some c →
        f.disk.tree.Nameable (f.root ++ [textType] ++ [id]) ∧ c ≠ .directory := by
      intro id c hc
      rw [content?_eq_map_item?, h.texts ⟨textType, id⟩ hne] at hc
      cases hat : s.at? ⟨textType, id⟩ with
      | none => simp [hat] at hc
      | some shelved =>
        refine ⟨h.textNames ⟨textType, id⟩ (by rw [hat]; rfl), ?_⟩
        rintro rfl
        simp [hat, fileOf, Item.content] at hc
    obtain ⟨d, hclear, hd, hgone, hothers⟩ :=
      clear_of_directory h.reliable h.isTree hcheck hname (h.content?_type ht) hfiles
    rw [h.listed_files hne, Std.ExtTreeMap.length_keys] at hclear
    refine ⟨d, hclear, hd.now, hd.basePath, ?_⟩
    have hbelow : ∀ id, d.tree.item? (f.root ++ [textType] ++ [id]) = none := by
      intro id
      rw [item?_eq_none_iff]
      exact Rooted.nothing_below hd.isTree _ (by rw [hgone]; simp) id
    apply h.of_gone hne hd hothers
    case hmem => exact fun t hmem => (Shelves.mem_erase.1 hmem).2
    case hat =>
      intro k hk
      rw [Shelves.at?_erase] at hk
      by_cases htype : k.textType = textType
      · simp [htype] at hk
      · rwa [if_neg htype] at hk
    case htypes =>
      intro t hne
      rw [Shelves.mem_erase, and_iff_right hne]
    case htexts =>
      intro k hk
      rw [Shelves.at?_erase, if_neg hk]
    case htype =>
      rw [item?_eq_none_iff.2 hgone]
      simp
    case hids =>
      intro id
      rw [hbelow, Shelves.at?_erase]
      simp
  · -- the directory is missing, so nothing is listed and nothing removed
    obtain ⟨d, hclear, htree, hfault, hnow⟩ := clear_of_missing h.reliable hcheck hname
      (h.unblocked_type hne) (h.content?_missing_type hne ht)
    rw [hclear, Shelves.shelf_of_not_mem ht, Shelves.erase_of_not_mem ht]
    exact h.serves_of_tree_eq htree hfault hnow

/-- Types in a row are cleared, and their texts are counted. -/
theorem clearEach (h : f.Holds s) {types : List String} (hnodup : types.Nodup)
    (hmem : ∀ t ∈ types, t ∈ s) (count : Nat) :
    ∃ s' : Shelves, Serves f (f.clearEach count types) (.ok (count + s.sizeOf types)) s' ∧
      ∀ t, t ∈ s' ↔ t ∈ s ∧ t ∉ types := by
  induction types generalizing f s count with
  | nil => exact ⟨s, h.serves_of_tree_eq rfl rfl rfl, by simp⟩
  | cons t rest ih =>
    have ht := hmem t List.mem_cons_self
    obtain ⟨hnew, hnodup'⟩ := List.nodup_cons.1 hnodup
    obtain ⟨d, hclear, hnow, hbase, hholds⟩ := h.clear (h.permitted t ht) (h.typeNames t ht)
    have hrest : ∀ other ∈ rest, other ∈ s.erase t := by
      intro other hother
      have hne : other ≠ t := by
        rintro rfl
        exact hnew hother
      exact Shelves.mem_erase.2 ⟨hne, hmem other (List.mem_cons_of_mem _ hother)⟩
    obtain ⟨s', ⟨d', heach, hnow', hbase', hholds'⟩, hmem'⟩ :=
      ih hholds hnodup' hrest (count + (s.shelf t).size)
    have hsize : count + s.sizeOf (t :: rest) =
        count + (s.shelf t).size + Shelves.sizeOf (s.erase t) rest := by
      rw [Shelves.sizeOf_erase hnew, Shelves.sizeOf, Nat.add_assoc]
    refine ⟨s', ⟨d', ?_, hnow'.trans hnow, hbase'.trans hbase, hholds'⟩, ?_⟩
    · rw [hsize]
      simp only [TextFiles.clearEach, hclear]
      exact heach
    · intro other
      rw [hmem', Shelves.mem_erase, List.mem_cons, not_or]
      constructor
      · rintro ⟨⟨hne, hin⟩, hout⟩
        exact ⟨hin, hne, hout⟩
      · rintro ⟨hin, hne, hout⟩
        exact ⟨⟨hne, hin⟩, hout⟩

/-- To clear all types leaves no shelf. -/
theorem clearAll (h : f.Holds s) : Serves f f.clearAll (.ok (s.sizeOf s.keys)) ∅ := by
  obtain ⟨d1, htypes, hnow1, hbase1, h1⟩ := h.textTypes
  have hnodup : s.keys.Nodup := by
    apply Std.ExtTreeMap.nodup_keys
  obtain ⟨s', ⟨d2, heach, hnow2, hbase2, h2⟩, hmem⟩ :=
    h1.clearEach hnodup (fun t ht => Std.ExtTreeMap.mem_keys.1 ht) 0
  -- every type was cleared
  have hnone : ∀ t, t ∉ s' := by
    intro t ht
    obtain ⟨hin, hout⟩ := (hmem t).1 ht
    exact hout (Std.ExtTreeMap.mem_keys.2 hin)
  have hempty : s' = ∅ := by
    apply Std.ExtTreeMap.ext_getElem?
    intro t
    rw [Std.ExtTreeMap.getElem?_eq_none (hnone t), Std.ExtTreeMap.getElem?_empty]
  refine ⟨d2, ?_, hnow2.trans hnow1, hbase2.trans hbase1, by rwa [hempty] at h2⟩
  simp only [TextFiles.clearAll, htypes]
  rw [heach, Nat.zero_add]

end Holds

end Files

end TextFiles
end CacheService
