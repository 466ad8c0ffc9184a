import CacheService.Proofs.TextStore.Files
import CacheService.Proofs.TextStore.Progress

/-!
# Texts in files on a reliable disk

On a disk whose calls do not fail by themselves, listing a directory answers exactly what stands in
it, and clearing a type that has nothing but files takes all of it away.
-/

namespace CacheService
namespace TextFiles

open FileTree Outcome Function

/-- The directory of a type is in the root, unless the type is refused. -/
theorem typePath_eq (f : TextFiles) (textType : String) :
    f.typePath textType =
      (TextName.checkType textType).map fun _ => f.root ++ [textType] := by
  unfold typePath
  cases TextName.checkType textType <;> rfl

theorem ne_staging_of_checkType {textType : String} (h : TextName.checkType textType = .ok ()) :
    textType ≠ TextName.staging := by
  rintro rfl
  obtain ⟨u, -, hreserved⟩ := bind_eq_ok_iff.1 h
  simp at hreserved

/-! ## Single calls -/

variable {α : Type} {f : TextFiles} {path : TreePath}

theorem call_of_ok {act : Disk → Except IoError α × Disk} {a : α} {d : Disk}
    (h : act f.disk = (.ok a, d)) : f.call path act = (.ok a, { f with disk := d }) := by
  simp only [call, h, Except.mapError]

theorem callFound_of_ok {act : Disk → Except IoError α × Disk} {a : α} {d : Disk}
    (h : act f.disk = (.ok a, d)) :
    f.callFound path act = (.ok (some a), { f with disk := d }) := by
  simp only [callFound, call, h, Except.mapError]

/-- Where something is missing, a call about a path answers that nothing was found. -/
theorem callFound_of_notFound {act : Disk → Except IoError α × Disk} {d : Disk}
    (h : act f.disk = (.error .notFound, d)) :
    f.callFound path act = (.ok none, { f with disk := d }) := by
  simp only [callFound, call, h, Except.mapError]

/-! ## Listing -/

/-- The names in a directory that are directories, or those that are not. -/
def listed (t : FileTree) (path : TreePath) (directories : Bool) : List String :=
  (t.children path).filterMap fun (name, isDirectory) =>
    if isDirectory == directories then some name else none

theorem mem_listed {t : FileTree} {name : String} {directories : Bool} :
    name ∈ listed t path directories ↔
      ∃ n, t.node? (path ++ [name]) = some n ∧ n.isDirectory = directories := by
  rw [← mem_children_iff, listed, List.mem_filterMap]
  constructor
  · rintro ⟨⟨other, flag⟩, hmem, hpick⟩
    by_cases hflag : flag = directories
    · obtain rfl : other = name := by simpa [hflag] using hpick
      rwa [hflag] at hmem
    · simp [hflag] at hpick
  · intro hmem
    exact ⟨(name, directories), hmem, by simp⟩

theorem mem_listed_directories {t : FileTree} {name : String} :
    name ∈ listed t path true ↔ t.item? (path ++ [name]) = some .directory := by
  rw [mem_listed, item?_eq_directory_iff, content?, Option.map_eq_some_iff]
  simp only [isDirectory_iff]

theorem mem_listed_files {t : FileTree} {name : String} :
    name ∈ listed t path false ↔
      ∃ item, t.item? (path ++ [name]) = some item ∧ item ≠ .directory := by
  rw [mem_listed]
  constructor
  · rintro ⟨n, hn, hfile⟩
    refine ⟨n.item, by simp [item?, hn], ?_⟩
    intro hitem
    have hcontent : n.content = .directory := by rw [← content_item, hitem]; rfl
    rw [(isDirectory_iff n).2 hcontent] at hfile
    cases hfile
  · rintro ⟨item, hitem, hne⟩
    obtain ⟨n, hn, rfl⟩ := Option.map_eq_some_iff.1 hitem
    refine ⟨n, hn, ?_⟩
    cases hdir : n.isDirectory with
    | false => rfl
    | true =>
      rw [isDirectory_iff] at hdir
      exact absurd (by simp [Node.item, hdir]) hne

/-- If no directories stand in a directory, all that stands there is listed. -/
theorem item?_of_not_listed {t : FileTree} {name : String}
    (hfiles : t.item? (path ++ [name]) ≠ some .directory)
    (h : name ∉ listed t path false) : t.item? (path ++ [name]) = none := by
  cases hitem : t.item? (path ++ [name]) with
  | none => rfl
  | some item =>
    refine absurd (mem_listed_files.2 ⟨item, hitem, ?_⟩) h
    rintro rfl
    exact hfiles hitem

/-- Names are listed in ascending order. -/
theorem pairwise_listed {t : FileTree} {directories : Bool} :
    (listed t path directories).Pairwise fun a b => compare a b = .lt := by
  apply List.Pairwise.filterMap _ _ pairwise_children
  rintro ⟨a, flag⟩ ⟨b, flag'⟩ hlt x hx y hy
  obtain rfl : a = x := by
    by_cases hflag : flag = directories <;> simp [hflag] at hx
    exact hx
  obtain rfl : b = y := by
    by_cases hflag : flag' = directories <;> simp [hflag] at hy
    exact hy
  exact hlt

/-- The names in a directory are listed in one call. -/
theorem names_of_directory (hd : f.disk.Reliable) (ht : f.disk.tree.IsTree)
    (hname : f.disk.tree.Nameable path) (hc : f.disk.tree.content? path = some .directory)
    (directories : Bool) :
    f.names path directories = (.ok (listed f.disk.tree path directories),
      { f with disk := { f.disk with calls := f.disk.calls + 1 } }) := by
  have hlook : f.disk.look (fun t => t.list path) =
      (.ok (f.disk.tree.children path), { f.disk with calls := f.disk.calls + 1 }) := by
    rw [Disk.look_of_reliable hd, list_of_directory ht hname hc]
  have hcall : f.callFound path (fun d => d.look fun t => t.list path) =
      (.ok (some (f.disk.tree.children path)),
        { f with disk := { f.disk with calls := f.disk.calls + 1 } }) := callFound_of_ok hlook
  simp only [names, hcall]
  rfl

/-- Where a directory could be and none is, there are no names. -/
theorem names_of_missing (hd : f.disk.Reliable) (hname : f.disk.tree.Nameable path)
    (hopen : f.disk.tree.Unblocked path) (hc : f.disk.tree.content? path = none)
    (directories : Bool) :
    f.names path directories =
      (.ok [], { f with disk := { f.disk with calls := f.disk.calls + 1 } }) := by
  have hlook : f.disk.look (fun t => t.list path) =
      (.error .notFound, { f.disk with calls := f.disk.calls + 1 }) := by
    rw [Disk.look_of_reliable hd, FileTree.list, find_notFound hname hopen hc]
    rfl
  have hcall : f.callFound path (fun d => d.look fun t => t.list path) =
      (.ok none, { f with disk := { f.disk with calls := f.disk.calls + 1 } }) :=
    callFound_of_notFound hlook
  simp only [names, hcall]
  rfl

/-! ## Clearing -/

/-- Files are removed one by one, and nothing else is touched. -/
theorem removeEach_of_files {directory : TreePath} {all : List String} (hd : f.disk.Reliable)
    (ht : f.disk.tree.IsTree) (hnodup : all.Nodup)
    (hfiles : ∀ name ∈ all, f.disk.tree.Nameable (directory ++ [name]) ∧
      ∃ bytes, f.disk.tree.content? (directory ++ [name]) = some (.file bytes)) :
    ∃ d, f.removeEach directory all = (.ok (), { f with disk := d }) ∧
      Disk.Reaches f.disk d d.tree.item? ∧
      (∀ name ∈ all, d.tree.item? (directory ++ [name]) = none) ∧
      ∀ q, (∀ name ∈ all, q ≠ directory ++ [name]) → d.tree.item? q = f.disk.tree.item? q := by
  induction all generalizing f with
  | nil => exact ⟨f.disk, rfl, ⟨rfl, rfl, ht, rfl, rfl⟩, by simp, fun q _ => rfl⟩
  | cons name rest ih =>
    obtain ⟨hnew, hnodup'⟩ := List.nodup_cons.1 hnodup
    obtain ⟨hname, bytes, hfile⟩ := hfiles name List.mem_cons_self
    obtain ⟨d, hchange, hr⟩ := Disk.change_of_ok hd (keepsBase_removeFile _ _)
      (removeFile_of_file f.disk.now ht hname hfile)
    -- the other files are still there
    have hkept : ∀ q, q ≠ directory ++ [name] → d.tree.item? q = f.disk.tree.item? q := by
      intro q hq
      rw [hr.items, update_of_ne hq]
    have hrest : ∀ other ∈ rest, d.tree.Nameable (directory ++ [other]) ∧
        ∃ bytes, d.tree.content? (directory ++ [other]) = some (.file bytes) := by
      intro other hmem
      have hne : directory ++ [other] ≠ directory ++ [name] := by
        intro hsame
        obtain rfl : other = name := by simpa using hsame
        exact hnew hmem
      rw [content?_congr (hkept _ hne), hr.nameable_iff]
      exact hfiles other (List.mem_cons_of_mem _ hmem)
    obtain ⟨d', hremove, hr', hgone, hothers⟩ :=
      ih (f := { f with disk := d }) (hr.reliable hd) hr.isTree hnodup' hrest
    have hcall : f.call (directory ++ [name])
        (fun d => d.change (FileTree.removeFile d.now (directory ++ [name]))) =
        (.ok (), { f with disk := d }) := call_of_ok hchange
    refine ⟨d', ?_, hr.trans hr', ?_, ?_⟩
    · simp only [removeEach, hcall]
      exact hremove
    · intro other hmem
      rcases List.mem_cons.1 hmem with rfl | hmem
      · rw [hothers, hr.items, update_self]
        intro third hthird hsame
        obtain rfl : other = third := by simpa using hsame
        exact hnew hthird
      · exact hgone other hmem
    · intro q hq
      rw [hothers q fun other hmem => hq other (List.mem_cons_of_mem _ hmem)]
      exact hkept q (hq name List.mem_cons_self)

/-- A type with nothing but files in its directory is taken away with all of them. -/
theorem clear_of_directory {textType : String} (hd : f.disk.Reliable) (ht : f.disk.tree.IsTree)
    (hcheck : TextName.checkType textType = .ok ())
    (hname : f.disk.tree.Nameable (f.root ++ [textType]))
    (hdir : f.disk.tree.content? (f.root ++ [textType]) = some .directory)
    (hfiles : ∀ name c, f.disk.tree.content? (f.root ++ [textType] ++ [name]) = some c →
      f.disk.tree.Nameable (f.root ++ [textType] ++ [name]) ∧ c ≠ .directory) :
    ∃ d, f.clear textType =
        (.ok (listed f.disk.tree (f.root ++ [textType]) false).length, { f with disk := d }) ∧
      Disk.Reaches f.disk d d.tree.item? ∧ d.tree.content? (f.root ++ [textType]) = none ∧
      ∀ q, ¬ (f.root ++ [textType]) <+: q → d.tree.item? q = f.disk.tree.item? q := by
  have hpath : f.typePath textType = .ok (f.root ++ [textType]) := by
    rw [typePath_eq, hcheck]
    rfl
  have hnames := names_of_directory hd ht hname hdir false
  -- exactly the files are listed, and nothing else stands there
  have hlisted : ∀ name ∈ listed f.disk.tree (f.root ++ [textType]) false,
      f.disk.tree.Nameable (f.root ++ [textType] ++ [name]) ∧
        ∃ bytes, f.disk.tree.content? (f.root ++ [textType] ++ [name]) = some (.file bytes) := by
    intro name hmem
    obtain ⟨n, hn, -⟩ := mem_listed.1 hmem
    obtain ⟨haccept, hfile⟩ := hfiles name n.content (content?_of_node? hn)
    refine ⟨haccept, ?_⟩
    cases hc : n.content with
    | directory => exact absurd hc hfile
    | file bytes => exact ⟨bytes, by rw [content?_of_node? hn, hc]⟩
  obtain ⟨d1, hremove, hr1, hgone, hothers⟩ :=
    removeEach_of_files (f := { f with disk := { f.disk with calls := f.disk.calls + 1 } })
      hd ht (nodup_of_ordered pairwise_listed) hlisted
  -- so the directory is empty, and goes as well
  have hdir1 : d1.tree.content? (f.root ++ [textType]) = some .directory := by
    rw [content?_congr (hothers _ fun name _ => by simp)]
    exact hdir
  have hempty : ∀ child, d1.tree.content? (f.root ++ [textType] ++ [child]) = none := by
    intro child
    rw [← item?_eq_none_iff]
    by_cases hmem : child ∈ listed f.disk.tree (f.root ++ [textType]) false
    · exact hgone child hmem
    · rw [hothers]
      · apply item?_of_not_listed _ hmem
        intro hdirectory
        exact (hfiles child _ (item?_eq_directory_iff.1 hdirectory)).2 rfl
      · intro name hname' hsame
        obtain rfl : child = name := by simpa using hsame
        exact hmem hname'
  obtain ⟨d2, hchange, hr2⟩ := Disk.change_of_ok (hr1.reliable hd)
    (keepsBase_removeDirectory _ _)
    (removeDirectory_of_empty d1.now hr1.isTree ((hr1.nameable_iff _).2 hname) hdir1 hempty)
  have hlast : callFound { f with disk := d1 } (f.root ++ [textType])
      (fun d => d.change (FileTree.removeDirectory d.now (f.root ++ [textType]))) =
      (.ok (some ()), { f with disk := d2 }) := callFound_of_ok hchange
  refine ⟨d2, ?_, ⟨hr2.now.trans hr1.now, hr2.fault.trans hr1.fault, hr2.isTree,
    hr2.basePath.trans hr1.basePath, rfl⟩, ?_, ?_⟩
  · simp only [clear, hpath, hnames, hremove, hlast, Except.map]
  · rw [← item?_eq_none_iff, hr2.items, update_self]
  · intro q hq
    have hne : q ≠ f.root ++ [textType] := by
      rintro rfl
      exact hq (List.prefix_refl _)
    rw [hr2.items, update_of_ne hne]
    apply hothers
    rintro name _ rfl
    exact hq (List.prefix_append _ _)

/-- To clear a type that has no directory does nothing. -/
theorem clear_of_missing {textType : String} (hd : f.disk.Reliable)
    (hcheck : TextName.checkType textType = .ok ())
    (hname : f.disk.tree.Nameable (f.root ++ [textType]))
    (hopen : f.disk.tree.Unblocked (f.root ++ [textType]))
    (hnone : f.disk.tree.content? (f.root ++ [textType]) = none) :
    ∃ d : Disk, f.clear textType = (.ok 0, { f with disk := d }) ∧ d.tree = f.disk.tree ∧
      d.fault = f.disk.fault ∧ d.now = f.disk.now := by
  have hpath : f.typePath textType = .ok (f.root ++ [textType]) := by
    rw [typePath_eq, hcheck]
    rfl
  have hnames := names_of_missing hd hname hopen hnone false
  have hmissing : FileTree.removeDirectory f.disk.now (f.root ++ [textType]) f.disk.tree =
      .error .notFound := by
    rw [FileTree.removeDirectory, find_notFound hname hopen hnone]
    rfl
  have hlast : callFound { f with disk := { f.disk with calls := f.disk.calls + 1 } }
      (f.root ++ [textType])
      (fun d => d.change (FileTree.removeDirectory d.now (f.root ++ [textType]))) =
      (.ok none, { f with disk := { f.disk with calls := f.disk.calls + 1 + 1 } }) :=
    callFound_of_notFound (Disk.change_of_error
      (d := { f.disk with calls := f.disk.calls + 1 }) hd hmissing)
  refine ⟨{ f.disk with calls := f.disk.calls + 1 + 1 }, ?_, rfl, rfl, rfl⟩
  simp only [clear, hpath, hnames, removeEach, hlast, Except.map, List.length_nil]

end TextFiles
end CacheService
