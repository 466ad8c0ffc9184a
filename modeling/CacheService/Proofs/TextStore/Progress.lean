import CacheService.Proofs.TextStore.Disk

/-!
# When the operations of a file system succeed

A tree is seen here with the times at which its files were written (`item?`), but without those of
its directories, which every change in a directory sets. Each operation succeeds on a path that the
file system accepts, if what it needs stands where it should, and then changes one path.

On a disk whose calls do not fail by themselves (`Disk.Reliable`), work of several calls is
described by the items that it leaves (`Disk.Reaches`).
-/

namespace CacheService
namespace FileTree

open Function Outcome

/-! ## What a reader sees -/

/-- A directory, or a file and when it was written. -/
inductive Item where
  | directory
  | file (bytes : List UInt8) (written : Instant)
  deriving DecidableEq

def Item.content : Item → Content
  | .directory => .directory
  | .file bytes _ => .file bytes

def Node.item (n : Node) : Item :=
  match n.content with
  | .directory => .directory
  | .file bytes => .file bytes n.modified

/-- The item at a path, whether or not it can be reached. -/
def item? (t : FileTree) (path : TreePath) : Option Item :=
  (t.node? path).map Node.item

@[simp] theorem content_item (n : Node) : n.item.content = n.content := by
  unfold Node.item
  cases n.content <;> rfl

theorem content?_eq_map_item? (t : FileTree) (path : TreePath) :
    t.content? path = (t.item? path).map Item.content := by
  unfold content? item?
  rw [Option.map_map]
  congr
  funext n
  exact (content_item n).symm

theorem item?_eq_none_iff {t : FileTree} {path : TreePath} :
    t.item? path = none ↔ t.content? path = none := by
  rw [content?_eq_map_item?, Option.map_eq_none_iff]

theorem item?_eq_directory_iff {t : FileTree} {path : TreePath} :
    t.item? path = some .directory ↔ t.content? path = some .directory := by
  rw [content?_eq_map_item?]
  rcases t.item? path with _ | _ | ⟨bytes, written⟩ <;> simp [Item.content]

theorem content?_congr {t t' : FileTree} {path : TreePath} (h : t'.item? path = t.item? path) :
    t'.content? path = t.content? path := by
  rw [content?_eq_map_item?, content?_eq_map_item?, h]

/-! ## Items after a change -/

/-- To touch a directory changes nothing but its time. -/
theorem node?_touch (t : FileTree) (path : TreePath) (now : Instant) (q : TreePath) :
    (t.touch path now).node? q =
      if q = path then (t.node? q).map fun n => { n with modified := now } else t.node? q := by
  unfold touch node?
  by_cases hp : path = []
  · by_cases hq : q = [] <;> simp [hp, hq, base]
  · by_cases hq : q = []
    · simp [hp, hq, base, Ne.symm hp]
    · simp only [List.isEmpty_iff, hp, hq, if_false, Std.ExtTreeMap.getElem?_modify,
        Std.LawfulEqOrd.compare_eq_iff_eq]
      by_cases hpq : q = path
      · simp [hpq]
      · simp [hpq, Ne.symm hpq]

/-- Nobody sees when a directory was changed. -/
theorem item?_touch {t : FileTree} {path : TreePath} (now : Instant)
    (hd : t.content? path = some .directory) : (t.touch path now).item? = t.item? := by
  funext q
  unfold item?
  rw [node?_touch]
  by_cases hq : q = path
  · obtain ⟨n, hn, hc⟩ := Option.map_eq_some_iff.1 hd
    simp [hq, hn, Node.item, hc]
  · rw [if_neg hq]

theorem item?_insert (t : FileTree) {path : TreePath} (hp : path ≠ []) (n : Node) :
    item? { t with nodes := t.nodes.insert path n } = update t.item? path (some n.item) := by
  funext q
  by_cases hq : q = path
  · subst hq
    simp [item?, node?, hp]
  · rw [update_of_ne hq]
    by_cases hn : q = []
    · simp [item?, node?, hn, base]
    · simp [item?, node?, hn, Std.ExtTreeMap.getElem?_insert, Ne.symm hq]

/-- The directory around has another time then, which its item does not tell. -/
theorem item?_place {t : FileTree} {dir : TreePath} {name : String}
    (hd : t.content? dir = some .directory) (n : Node) (now : Instant) :
    (t.place (dir ++ [name]) n now).item? = update t.item? (dir ++ [name]) (some n.item) := by
  have hne : dir ≠ dir ++ [name] := by simp
  have hdir : content? { t with nodes := t.nodes.insert (dir ++ [name]) n } dir =
      some .directory := by
    rw [content?_insert t (by simp), update_of_ne hne, hd]
  rw [place, List.dropLast_concat, item?_touch now hdir, item?_insert t (by simp)]

theorem item?_erase {t : FileTree} {dir : TreePath} {name : String}
    (hd : t.content? dir = some .directory) (now : Instant) :
    (t.erase (dir ++ [name]) now).item? = update t.item? (dir ++ [name]) none := by
  have hnode : ∀ q, node? { t with nodes := t.nodes.erase (dir ++ [name]) } q =
      if q = dir ++ [name] then none else t.node? q := by
    intro q
    by_cases hq : q = dir ++ [name]
    · simp [node?, hq]
    · by_cases hn : q = []
      · simp [node?, hn, base]
      · simp [node?, hn, hq, Std.ExtTreeMap.getElem?_erase, Ne.symm hq]
  have hdir : content? { t with nodes := t.nodes.erase (dir ++ [name]) } dir =
      some .directory := by
    unfold content?
    rw [hnode, if_neg (by simp)]
    exact hd
  rw [erase, List.dropLast_concat, item?_touch now hdir]
  funext q
  unfold item?
  rw [hnode]
  by_cases hq : q = dir ++ [name]
  · simp [hq]
  · rw [if_neg hq, update_of_ne hq]

/-! ## Paths that are accepted -/

/-- What is above an accepted path is an accepted path. -/
theorem Nameable.above {t : FileTree} {front rest : TreePath} (h : t.Nameable (front ++ rest)) :
    t.Nameable front := by
  obtain ⟨hcheck, hshort⟩ := h
  refine ⟨?_, fun name hmem => hshort name (List.mem_append_left _ hmem)⟩
  -- the front has no more bytes and no other characters than the whole path
  have hgrow : ∀ (more : TreePath) (size : Nat),
      size ≤ more.foldl (fun size name => size + 1 + name.utf8ByteSize) size := by
    intro more
    induction more with
    | nil => exact fun size => Nat.le_refl size
    | cons name more ih =>
      intro size
      have hnext := ih (size + 1 + name.utf8ByteSize)
      rw [List.foldl_cons]
      omega
  have hsize : pathSize front ≤ pathSize (front ++ rest) := by
    unfold pathSize
    rw [List.foldl_append]
    exact hgrow rest _
  unfold checkPath at hcheck ⊢
  by_cases hnul : hasNul (front ++ rest) = true
  · simp [hnul] at hcheck
  · by_cases hlong : longestPath < t.basePath.utf8ByteSize + pathSize (front ++ rest)
    · simp [hnul, hlong] at hcheck
    · have hfront : hasNul front = false := by
        simp only [hasNul, List.any_append, Bool.or_eq_true, not_or, Bool.not_eq_true] at hnul
        exact hnul.1
      have hfits : ¬ longestPath < t.basePath.utf8ByteSize + pathSize front := by omega
      simp [hfront, hfits]

theorem Nameable.hasNul_eq_false {t : FileTree} {path : TreePath} (h : t.Nameable path) :
    hasNul path = false := by
  have hcheck := h.1
  unfold checkPath at hcheck
  cases hnul : hasNul path with
  | false => rfl
  | true => simp [hnul] at hcheck

section Operations

variable {t : FileTree} (now : Instant) {dir path : TreePath} {name : String}

/-! ## Looking -/

/-- A path on which there is no file leads nowhere if nothing stands at its end. -/
theorem walk_notFound {before rest : TreePath} {node : Node}
    (hb : t.node? before = some node) (hdir : node.isDirectory = true)
    (hshort : ∀ name ∈ rest, name.utf8ByteSize ≤ longestName)
    (habove : ∀ front back, rest = front ++ back → t.file? (before ++ front) = none)
    (hnone : t.node? (before ++ rest) = none) :
    t.walk before node rest = .error .notFound := by
  induction rest generalizing before node with
  | nil =>
    rw [List.append_nil, hb] at hnone
    cases hnone
  | cons name rest ih =>
    have hlong : ¬ longestName < name.utf8ByteSize := by
      have := hshort name List.mem_cons_self
      omega
    simp only [walk, hdir, Bool.not_true, Bool.false_eq_true, if_false, hlong]
    cases hnext : t.node? (before ++ [name]) with
    | none => rfl
    | some next =>
      -- what stands there is no file, so the walk goes on in a directory
      have hnodir : next.isDirectory = true := by
        have hfile := habove [name] rest rfl
        rw [file?, content?_of_node? hnext] at hfile
        rw [isDirectory_iff]
        cases hc : next.content with
        | directory => rfl
        | file bytes => simp [hc, Content.bytes?] at hfile
      apply ih hnext hnodir
      · intro other hmem
        exact hshort other (List.mem_cons_of_mem _ hmem)
      · intro front back hsplit
        have := habove (name :: front) back (by rw [hsplit]; rfl)
        simpa using this
      · simpa using hnone

/-- Neither on the way along a path nor at its end there is a file. -/
def Unblocked (t : FileTree) (path : TreePath) : Prop :=
  ∀ front back, path = front ++ back → t.file? front = none

theorem unblocked_of_directory (ht : t.IsTree) (hd : t.content? path = some .directory) :
    t.Unblocked path := by
  intro front back hsplit
  have hfront : t.content? front = some .directory := by
    by_cases hb : back = []
    · rwa [hsplit, hb, List.append_nil] at hd
    · exact Rooted.above ht front (by rw [← hsplit, hd]; rfl) hb
  simp [file?, hfront, Content.bytes?]

/-- A way without files may go on to where nothing is. -/
theorem Unblocked.missing (h : t.Unblocked path) (hnone : t.content? (path ++ [name]) = none) :
    t.Unblocked (path ++ [name]) := by
  intro front back hsplit
  rcases List.eq_nil_or_concat back with rfl | ⟨back, last, rfl⟩
  · rw [List.append_nil] at hsplit
    simp [file?, ← hsplit, hnone]
  · rw [List.concat_eq_append, ← List.append_assoc] at hsplit
    exact h front back (List.append_inj' hsplit rfl).1

/-- At the end of a way without files, nothing is found where nothing is. -/
theorem find_notFound (hname : t.Nameable path) (hopen : t.Unblocked path)
    (hnone : t.content? path = none) : t.find path = .error .notFound := by
  have hmissing : t.node? ([] ++ path) = none := by simpa [content?] using hnone
  unfold find
  rw [hname.1, ok_bind]
  exact walk_notFound (node?_nil t) rfl hname.2 (fun front back h => hopen front back h) hmissing

/-- What stands in a tree is found by an accepted path. -/
theorem find_of_content? (ht : t.IsTree) {c : Content} (hname : t.Nameable path)
    (hc : t.content? path = some c) : ∃ n, t.find path = .ok n ∧ t.node? path = some n ∧
      n.content = c := by
  obtain ⟨n, hn, hcontent⟩ := Option.map_eq_some_iff.1 hc
  exact ⟨n, (find_eq_ok_iff ht).2 ⟨hname, hn⟩, hn, hcontent⟩

theorem isDirectory_of_content? (ht : t.IsTree) (hname : t.Nameable path)
    (hd : t.content? path = some .directory) : t.isDirectory path = true := by
  obtain ⟨n, hf, -, hc⟩ := find_of_content? ht hname hd
  unfold isDirectory
  rw [hf]
  exact (isDirectory_iff n).2 hc

/-- In a directory it is plain what a path leads to. -/
theorem entry_of_directory (ht : t.IsTree) (hname : t.Nameable (dir ++ [name]))
    (hd : t.content? dir = some .directory) :
    t.entry (dir ++ [name]) = .ok (t.node? (dir ++ [name])) := by
  obtain ⟨parent, hn, hc⟩ := Option.map_eq_some_iff.1 hd
  have hwalk : t.walk [] t.base dir = .ok parent := by
    rw [walk_of_isTree ht (node?_nil t) (n := parent) (by simpa using hn)]
    exact if_pos fun other hmem => hname.2 other (List.mem_append_left _ hmem)
  have hparent : parent.isDirectory = true := (isDirectory_iff parent).2 hc
  have hlong : ¬ longestName < name.utf8ByteSize := by
    have := hname.2 name (by simp)
    omega
  simp only [entry, hname.1, ok_bind, List.getLast?_append, List.getLast?_singleton,
    Option.some_or, List.dropLast_concat, hwalk, hparent, Bool.not_true, Bool.false_eq_true,
    if_false, hlong, pure_eq]

theorem list_of_directory (ht : t.IsTree) (hname : t.Nameable path)
    (hd : t.content? path = some .directory) : t.list path = .ok (t.children path) := by
  obtain ⟨n, hf, -, hc⟩ := find_of_content? ht hname hd
  have hdir : n.isDirectory = true := (isDirectory_iff n).2 hc
  simp only [list, hf, ok_bind, hdir, if_true, pure_eq]

/-! ## Names in order -/

/-- The children of a directory are the nodes one name below it. -/
theorem child_eq_some_iff {p : TreePath} {n : Node} {child : String × Bool} :
    (match p.getLast? with
      | some name => if p = path ++ [name] then some (name, n.isDirectory) else none
      | none => none) = some child ↔ p = path ++ [child.1] ∧ n.isDirectory = child.2 := by
  constructor
  · intro h
    cases hlast : p.getLast? with
    | none => simp [hlast] at h
    | some last =>
      by_cases hp : p = path ++ [last]
      · simp only [hlast, if_pos hp, Option.some.injEq] at h
        rw [← h]
        exact ⟨hp, rfl⟩
      · simp [hlast, if_neg hp] at h
  · rintro ⟨rfl, hn⟩
    simp [hn]

/-- Exactly what stands in a directory is listed there. -/
theorem mem_children_iff {flag : Bool} :
    (name, flag) ∈ t.children path ↔
      ∃ n, t.node? (path ++ [name]) = some n ∧ n.isDirectory = flag := by
  rw [node?_of_ne_nil t (by simp), children, List.mem_filterMap]
  constructor
  · rintro ⟨⟨p, n⟩, hmem, hpick⟩
    obtain ⟨rfl, hn⟩ := child_eq_some_iff.1 hpick
    exact ⟨n, Std.ExtTreeMap.mem_toList_iff_getElem?_eq_some.1 hmem, hn⟩
  · rintro ⟨n, hmem, hn⟩
    exact ⟨(path ++ [name], n), Std.ExtTreeMap.mem_toList_iff_getElem?_eq_some.2 hmem,
      child_eq_some_iff.2 ⟨rfl, hn⟩⟩

/-- Paths in one directory are ordered as their last names are. -/
theorem compare_append_singleton (path : TreePath) (a b : String) :
    compare (path ++ [a]) (path ++ [b]) = compare a b := by
  have hlex : ∀ l l' : TreePath, compare l l' = List.compareLex compare l l' := fun _ _ => rfl
  induction path with
  | nil =>
    rw [List.nil_append, List.nil_append, hlex, List.compareLex_cons_cons]
    cases compare a b <;> rfl
  | cons name path ih =>
    have hname : compare name name = .eq := Std.ReflCmp.compare_self
    rw [List.cons_append, List.cons_append, hlex, List.compareLex_cons_cons, hname, ← hlex, ih]
    rfl

/-- Children are in ascending order of their names. -/
theorem pairwise_children :
    (t.children path).Pairwise fun x y => compare x.1 y.1 = .lt := by
  apply List.Pairwise.filterMap _ _ Std.ExtTreeMap.ordered_keys_toList
  rintro ⟨p, n⟩ ⟨p', n'⟩ hlt x hx y hy
  -- both paths are those of the directory with the names that are listed
  have hp : p = path ++ [x.1] := (child_eq_some_iff.1 hx).1
  have hp' : p' = path ++ [y.1] := (child_eq_some_iff.1 hy).1
  rw [hp, hp', compare_append_singleton] at hlt
  exact hlt

theorem nodup_of_ordered {l : List String} (h : l.Pairwise fun a b => compare a b = .lt) :
    l.Nodup := by
  apply h.imp
  rintro a b hlt rfl
  have hself : compare a a = .eq := Std.ReflCmp.compare_self
  rw [hself] at hlt
  cases hlt

/-- Two lists of names in order are the same if they have the same names. -/
theorem names_ext {l l' : List String} (h : l.Pairwise fun a b => compare a b = .lt)
    (h' : l'.Pairwise fun a b => compare a b = .lt) (hmem : ∀ a, a ∈ l ↔ a ∈ l') : l = l' := by
  apply List.Perm.eq_of_pairwise _ h h'
  · exact (List.perm_ext_iff_of_nodup (nodup_of_ordered h) (nodup_of_ordered h')).2 hmem
  · intro a b _ _ hab hba
    have hswap : compare a b = (compare b a).swap := Std.OrientedCmp.eq_swap
    rw [hswap, hba] at hab
    cases hab

/-! ## Changing -/

/-- In a directory, a directory can be made where nothing is. -/
theorem makeDirectory_of_missing (ht : t.IsTree) (hname : t.Nameable (dir ++ [name]))
    (hd : t.content? dir = some .directory) (hnone : t.content? (dir ++ [name]) = none) :
    ∃ t', makeDirectory now (dir ++ [name]) t = .ok t' ∧ t'.IsTree ∧
      t'.item? = update t.item? (dir ++ [name]) (some .directory) := by
  have hmissing : t.node? (dir ++ [name]) = none := by simpa [content?] using hnone
  have hmake : makeDirectory now (dir ++ [name]) t =
      .ok (t.place (dir ++ [name]) ⟨.directory, now⟩ now) := by
    simp only [makeDirectory, entry_of_directory ht hname hd, ok_bind, hmissing, pure_eq]
  exact ⟨_, hmake, ht.makeDirectory hmake, item?_place hd _ _⟩

/-- Where something is, no directory can be made. -/
theorem makeDirectory_of_present (ht : t.IsTree) (hname : t.Nameable (dir ++ [name]))
    (hd : t.content? dir = some .directory) {c : Content}
    (hc : t.content? (dir ++ [name]) = some c) :
    makeDirectory now (dir ++ [name]) t = .error .fileExists := by
  obtain ⟨n, hn, -⟩ := Option.map_eq_some_iff.1 hc
  simp only [makeDirectory, entry_of_directory ht hname hd, ok_bind, hn, throw_eq]

/-- In a directory, a file can be written where no directory is. -/
theorem writeFile_of_directory (bytes : List UInt8) (ht : t.IsTree)
    (hname : t.Nameable (dir ++ [name])) (hd : t.content? dir = some .directory)
    (hfree : t.content? (dir ++ [name]) ≠ some .directory) :
    ∃ t', writeFile now (dir ++ [name]) bytes t = .ok t' ∧ t'.IsTree ∧
      t'.item? = update t.item? (dir ++ [name]) (some (.file bytes now)) := by
  cases hn : t.node? (dir ++ [name]) with
  | none =>
    have hwrite : writeFile now (dir ++ [name]) bytes t =
        .ok (t.place (dir ++ [name]) ⟨.file bytes, now⟩ now) := by
      simp only [writeFile, entry_of_directory ht hname hd, ok_bind, hn, pure_eq]
    exact ⟨_, hwrite, ht.writeFile hwrite, item?_place hd _ _⟩
  | some n =>
    have hfile : n.isDirectory = false := by
      rw [content?_of_node? hn, ne_eq, Option.some.injEq, ← isDirectory_iff] at hfree
      simpa using hfree
    have hwrite : writeFile now (dir ++ [name]) bytes t =
        .ok { t with nodes := t.nodes.insert (dir ++ [name]) ⟨.file bytes, now⟩ } := by
      simp only [writeFile, entry_of_directory ht hname hd, ok_bind, hn, hfile,
        Bool.false_eq_true, if_false, pure_eq]
    exact ⟨_, hwrite, ht.writeFile hwrite, item?_insert t (by simp) _⟩

theorem removeFile_of_file {bytes : List UInt8} (ht : t.IsTree)
    (hname : t.Nameable (dir ++ [name])) (hc : t.content? (dir ++ [name]) = some (.file bytes)) :
    ∃ t', removeFile now (dir ++ [name]) t = .ok t' ∧ t'.IsTree ∧
      t'.item? = update t.item? (dir ++ [name]) none := by
  obtain ⟨n, hf, -, hn⟩ := find_of_content? ht hname hc
  have hdir : n.isDirectory = false := by simp [Node.isDirectory, hn]
  have hremove : removeFile now (dir ++ [name]) t = .ok (t.erase (dir ++ [name]) now) := by
    simp only [removeFile, hf, ok_bind, hdir, Bool.false_eq_true, if_false, pure_eq]
  have hd : t.content? dir = some .directory := ht dir name (by rw [hc]; rfl)
  exact ⟨_, hremove, ht.removeFile hremove, item?_erase hd _⟩

/-- A directory can be removed if nothing is below it. -/
theorem removeDirectory_of_empty (ht : t.IsTree) (hname : t.Nameable (dir ++ [name]))
    (hc : t.content? (dir ++ [name]) = some .directory)
    (hempty : ∀ child, t.content? (dir ++ [name] ++ [child]) = none) :
    ∃ t', removeDirectory now (dir ++ [name]) t = .ok t' ∧ t'.IsTree ∧
      t'.item? = update t.item? (dir ++ [name]) none := by
  obtain ⟨n, hf, -, hn⟩ := find_of_content? ht hname hc
  have hdir : n.isDirectory = true := (isDirectory_iff n).2 hn
  have hchildren : t.children (dir ++ [name]) = [] := by
    rw [List.eq_nil_iff_forall_not_mem]
    rintro ⟨child, flag⟩ hmem
    obtain ⟨m, hm, -⟩ := mem_children_iff.1 hmem
    have hgone := hempty child
    rw [content?_of_node? hm] at hgone
    cases hgone
  have hremove : removeDirectory now (dir ++ [name]) t = .ok (t.erase (dir ++ [name]) now) := by
    simp only [removeDirectory, hf, ok_bind, hdir, Bool.not_true, Bool.false_eq_true, if_false,
      hchildren, List.isEmpty_nil, pure_eq]
  have hd : t.content? dir = some .directory := ht dir name (by rw [hc]; rfl)
  exact ⟨_, hremove, ht.removeDirectory (by simp) hremove, item?_erase hd _⟩

/-- A file keeps the time of its writing when it is moved. -/
theorem moveFile_of_file {sdir : TreePath} {sname : String} {bytes : List UInt8}
    {written : Instant} (ht : t.IsTree) (hsource : t.Nameable (sdir ++ [sname]))
    (hname : t.Nameable (dir ++ [name]))
    (hitem : t.item? (sdir ++ [sname]) = some (.file bytes written))
    (hd : t.content? dir = some .directory)
    (hfree : t.content? (dir ++ [name]) ≠ some .directory) :
    ∃ t', moveFile now (sdir ++ [sname]) (dir ++ [name]) t = .ok t' ∧ t'.IsTree ∧
      t'.item? = update (update t.item? (sdir ++ [sname]) none) (dir ++ [name])
        (some (.file bytes written)) := by
  obtain ⟨moved, hn, hmoved⟩ := Option.map_eq_some_iff.1 hitem
  have hc : t.content? (sdir ++ [sname]) = some (.file bytes) := by
    rw [content?_eq_map_item?, hitem]
    rfl
  have hf : t.find (sdir ++ [sname]) = .ok moved := (find_eq_ok_iff ht).2 ⟨hsource, hn⟩
  have hmove : moveFile now (sdir ++ [sname]) (dir ++ [name]) t =
      .ok ((t.erase (sdir ++ [sname]) now).place (dir ++ [name]) moved now) := by
    simp only [moveFile, hname.hasNul_eq_false, Bool.false_eq_true, if_false, hf, ok_bind,
      entry_of_directory ht hname hd]
    cases ht' : t.node? (dir ++ [name]) with
    | none => rfl
    | some n =>
      have hfile : n.isDirectory = false := by
        rw [content?_of_node? ht', ne_eq, Option.some.injEq, ← isDirectory_iff] at hfree
        simpa using hfree
      simp only [hfile, Bool.false_eq_true, if_false, pure_eq]
  refine ⟨_, hmove, ht.moveFile (by simp) hc hmove, ?_⟩
  -- a file is no directory, so the directory it is moved to stays when it is taken away
  have hdir : dir ≠ sdir ++ [sname] := by
    rintro rfl
    rw [hc] at hd
    cases hd
  have hsdir : t.content? sdir = some .directory := ht sdir sname (by rw [hc]; rfl)
  have hstays : (t.erase (sdir ++ [sname]) now).content? dir = some .directory := by
    rw [content?_erase t (by simp), update_of_ne hdir, hd]
  rw [item?_place hstays, item?_erase hsdir, hmoved]

end Operations

end FileTree

namespace Disk

open FileTree Function

/-! ## Disks whose calls do not fail by themselves -/

/-- Every call does what the tree says. -/
def Reliable (d : Disk) : Prop :=
  ∀ call, d.fault call = none

/-- Work on a disk that takes no time and leaves a tree with the given items. -/
structure Reaches (d d' : Disk) (items : TreePath → Option Item) : Prop where
  now : d'.now = d.now
  fault : d'.fault = d.fault
  isTree : d'.tree.IsTree
  basePath : d'.tree.basePath = d.tree.basePath
  items : d'.tree.item? = items

section Calls

variable {α : Type} {d d' d'' : Disk} {items : TreePath → Option Item} {dir : TreePath}
  {name : String}

namespace Reaches

theorem reliable (h : Reaches d d' items) (hd : d.Reliable) : d'.Reliable := by
  intro call
  rw [h.fault]
  exact hd call

theorem trans {items' : TreePath → Option Item} (h : Reaches d d' items)
    (h' : Reaches d' d'' items') : Reaches d d'' items' where
  now := h'.now.trans h.now
  fault := h'.fault.trans h.fault
  isTree := h'.isTree
  basePath := h'.basePath.trans h.basePath
  items := h'.items

theorem nameable_iff (h : Reaches d d' items) (path : TreePath) :
    d'.tree.Nameable path ↔ d.tree.Nameable path :=
  nameable_congr h.basePath path

theorem content? (h : Reaches d d' items) (path : TreePath) :
    d'.tree.content? path = (items path).map Item.content := by
  rw [content?_eq_map_item?, h.items]

end Reaches

/-- A reliable disk answers what the tree says. -/
theorem look_of_reliable (hd : d.Reliable) (f : FileTree → Except IoError α) :
    d.look f = (f d.tree, { d with calls := d.calls + 1 }) := by
  simp only [look, hd (d.calls + 1)]

/-- A change that the tree refuses is a call and no more. -/
theorem change_of_error (hd : d.Reliable) {f : FileTree → Except IoError FileTree} {e : IoError}
    (h : f d.tree = .error e) : d.change f = (.error e, { d with calls := d.calls + 1 }) := by
  simp only [change, look_of_reliable hd, h]

/-- A change that the tree allows is made. -/
theorem change_of_ok (hd : d.Reliable) {f : FileTree → Except IoError FileTree}
    (hbase : KeepsBase f) (h : ∃ t', f d.tree = .ok t' ∧ t'.IsTree ∧ t'.item? = items) :
    ∃ d', d.change f = (.ok (), d') ∧ Reaches d d' items := by
  obtain ⟨t', hok, ht, hitems⟩ := h
  refine ⟨{ d with tree := t', calls := d.calls + 1 }, ?_, rfl, rfl, ht, hbase _ _ hok, hitems⟩
  simp only [change, look_of_reliable hd, hok]

/-- A directory is made, or is there already. -/
theorem makeDirectories_of_directory (hd : d.Reliable) (ht : d.tree.IsTree)
    (hname : d.tree.Nameable (dir ++ [name])) (hdir : d.tree.content? dir = some .directory)
    (hfree : d.tree.content? (dir ++ [name]) = none ∨
      d.tree.content? (dir ++ [name]) = some .directory) :
    ∃ d', d.makeDirectories (dir ++ [name]) = (.ok (), d') ∧
      Reaches d d' (update d.tree.item? (dir ++ [name]) (some .directory)) := by
  have hpath : (name :: dir.reverse).reverse = dir ++ [name] := by simp
  have hupwards : d.makeDirectories (dir ++ [name]) = d.makeUpwards (name :: dir.reverse) := by
    simp [makeDirectories]
  rw [hupwards, makeUpwards_cons, hpath]
  rcases hfree with hnone | hthere
  · obtain ⟨d', hmade, hreaches⟩ := change_of_ok hd
      (keepsBase_makeDirectory _ _) (makeDirectory_of_missing d.now ht hname hdir hnone)
    exact ⟨d', by simp only [hmade], hreaches⟩
  · -- the call fails, and then a look shows that there is no need for it
    have hfails := change_of_error hd
      (makeDirectory_of_present d.now ht hname hdir hthere)
    refine ⟨{ d with calls := d.calls + 1 }, ?_, rfl, rfl, ht, rfl, ?_⟩
    · have hseen := isDirectory_of_content? ht hname hthere
      simp [hfails, hseen]
    · rw [← item?_eq_directory_iff] at hthere
      rw [← hthere, update_eq_self]

/-- A file is replaced, and nothing is left of the file that was written first. -/
theorem replaceFile_of_directories (hd : d.Reliable) (ht : d.tree.IsTree) {sdir : TreePath}
    {sname : String} (bytes : List UInt8) (hsname : d.tree.Nameable (sdir ++ [sname]))
    (hname : d.tree.Nameable (dir ++ [name])) (hsdir : d.tree.content? sdir = some .directory)
    (hdir : d.tree.content? dir = some .directory)
    (hstaged : d.tree.content? (sdir ++ [sname]) = none)
    (hfree : d.tree.content? (dir ++ [name]) ≠ some .directory)
    (hne : dir ++ [name] ≠ sdir ++ [sname]) :
    ∃ d', d.replaceFile (sdir ++ [sname]) (dir ++ [name]) bytes = (.ok (), d') ∧
      Reaches d d' (update d.tree.item? (dir ++ [name]) (some (.file bytes d.now))) := by
  have hdir_ne : dir ≠ sdir ++ [sname] := by
    rintro rfl
    rw [hstaged] at hdir
    cases hdir
  have hsdir_ne : sdir ≠ sdir ++ [sname] := by simp
  -- first an empty file
  obtain ⟨d1, hwrite1, hr1⟩ := change_of_ok hd (keepsBase_writeFile _ _ _)
    (writeFile_of_directory d.now [] ht hsname hsdir (by simp [hstaged]))
  -- then the bytes
  obtain ⟨d2, hwrite2, hr2⟩ := change_of_ok (hr1.reliable hd) (keepsBase_writeFile _ _ _)
    (writeFile_of_directory d1.now bytes hr1.isTree ((hr1.nameable_iff _).2 hsname)
      (by rw [hr1.content?, update_of_ne hsdir_ne, ← content?_eq_map_item?, hsdir])
      (by rw [hr1.content?, update_self]; simp [Item.content]))
  have hitems2 : d2.tree.item? =
      update d.tree.item? (sdir ++ [sname]) (some (.file bytes d.now)) := by
    rw [hr2.items, hr1.items, hr1.now, update_idem]
  have hcontent2 : ∀ q, q ≠ sdir ++ [sname] → d2.tree.content? q = d.tree.content? q := by
    intro q hq
    exact content?_congr (by rw [hitems2, update_of_ne hq])
  have hfull : d2.tree.item? (sdir ++ [sname]) = some (.file bytes d.now) := by
    rw [hitems2, update_self]
  -- and last the move
  have hr12 := hr1.trans hr2
  obtain ⟨d3, hmove, hr3⟩ := change_of_ok (hr2.reliable (hr1.reliable hd))
    (keepsBase_moveFile _ _ _)
    (moveFile_of_file d2.now hr2.isTree ((hr12.nameable_iff _).2 hsname)
      ((hr12.nameable_iff _).2 hname) hfull (by rw [hcontent2 dir hdir_ne, hdir])
      (by rw [hcontent2 _ hne]; exact hfree))
  refine ⟨d3, by simp only [replaceFile, hwrite1, hwrite2, hmove], ?_⟩
  have hr := hr12.trans hr3
  have hgone : d.tree.item? (sdir ++ [sname]) = none := item?_eq_none_iff.2 hstaged
  rwa [hitems2, update_idem, ← hgone, update_eq_self] at hr

end Calls

end Disk
end CacheService
