import CacheService.Proofs.Outcome
import CacheService.TextStore.FileTree
import Mathlib.Data.List.Basic
import Mathlib.Data.List.Induction
import Mathlib.Logic.Function.Basic

/-!
# What the operations of a file system do to a tree

A tree is described by what stands at each path (`content?`). In a tree as a file system has them
everything below the base stands in a directory (`IsTree`), and then a path leads to what stands
there, unless the path itself cannot be handed to the file system.

Each operation changes what stands at one path, and a move at two. All of them keep trees trees.
-/

namespace CacheService
namespace FileTree

open Function Outcome

/-! ## What stands at a path -/

/-- What stands at a path, whether or not it can be reached. -/
def content? (t : FileTree) (path : TreePath) : Option Content :=
  (t.node? path).map Node.content

def Content.bytes? : Content → Option (List UInt8)
  | .directory => none
  | .file bytes => some bytes

/-- The bytes of the file at a path, whether or not it can be reached. -/
def file? (t : FileTree) (path : TreePath) : Option (List UInt8) :=
  (t.content? path).bind Content.bytes?

/-- The parent of everything that stands at a path is a directory. -/
def Rooted (c : TreePath → Option Content) : Prop :=
  ∀ path name, (c (path ++ [name])).isSome → c path = some .directory

/-- Everything below the base stands in a directory. -/
def IsTree (t : FileTree) : Prop :=
  Rooted t.content?

/-- A path that the file system accepts below the base. -/
def Nameable (t : FileTree) (path : TreePath) : Prop :=
  t.checkPath path = .ok () ∧ ∀ name ∈ path, name.utf8ByteSize ≤ longestName

/-- Which paths are refused depends on where the base is alone. -/
theorem checkPath_congr {t t' : FileTree} (h : t'.basePath = t.basePath) (path : TreePath) :
    t'.checkPath path = t.checkPath path := by
  simp only [checkPath, h]

/-- Below the same base the same paths are accepted. -/
theorem nameable_congr {t t' : FileTree} (h : t'.basePath = t.basePath) (path : TreePath) :
    t'.Nameable path ↔ t.Nameable path := by
  rw [Nameable, Nameable, checkPath_congr h]

theorem node?_nil (t : FileTree) : t.node? [] = some t.base := by
  simp [node?]

theorem content?_nil (t : FileTree) : t.content? [] = some .directory := by
  simp [content?, node?_nil, base]

theorem node?_of_ne_nil (t : FileTree) {path : TreePath} (h : path ≠ []) :
    t.node? path = t.nodes[path]? := by
  simp [node?, h]

theorem content?_of_node? {t : FileTree} {path : TreePath} {n : Node} (h : t.node? path = some n) :
    t.content? path = some n.content := by
  simp [content?, h]

theorem file?_eq_some_iff {t : FileTree} {path : TreePath} {bytes : List UInt8} :
    t.file? path = some bytes ↔ t.content? path = some (.file bytes) := by
  unfold file?
  rcases t.content? path with _ | c
  · simp
  · cases c <;> simp [Content.bytes?]

theorem isDirectory_iff (n : Node) : n.isDirectory = true ↔ n.content = .directory := by
  unfold Node.isDirectory
  cases n.content <;> simp

/-- The tree with nothing below its base. -/
theorem isTree_empty : IsTree {} := by
  intro path name h
  simp [content?, node?] at h

/-- Everything above something that stands in a tree is a directory. -/
theorem Rooted.above {c : TreePath → Option Content} (hc : Rooted c) (path : TreePath)
    {rest : TreePath} (h : (c (path ++ rest)).isSome) (hr : rest ≠ []) :
    c path = some .directory := by
  -- from the end of the path upwards, one name at a time
  induction rest using List.reverseRecOn with
  | nil => exact absurd rfl hr
  | append_singleton front name ih =>
    have hd : c (path ++ front) = some .directory := by
      apply hc (path ++ front) name
      simpa using h
    by_cases hf : front = []
    · simpa [hf] using hd
    · exact ih (by simp [hd]) hf

/-! ## Following paths -/

/-- Following the rest of a path in a tree finds what stands at its end, or a name that is too
long. -/
theorem walk_of_isTree {t : FileTree} (ht : t.IsTree) {before : TreePath} {node n : Node}
    {rest : TreePath} (hb : t.node? before = some node)
    (hn : t.node? (before ++ rest) = some n) :
    t.walk before node rest =
      if ∀ name ∈ rest, name.utf8ByteSize ≤ longestName then .ok n else .error .nameTooLong := by
  induction rest generalizing before node with
  | nil =>
    have : node = n := by simpa [hb] using hn
    simp [walk, this]
  | cons name rest ih =>
    -- the walk goes on below the node, so the node is a directory
    have hdir : node.isDirectory = true := by
      have := Rooted.above ht before (by rw [content?_of_node? hn]; rfl)
        (List.cons_ne_nil name rest)
      rw [content?_of_node? hb, Option.some.injEq] at this
      exact (isDirectory_iff node).2 this
    have hsplit : before ++ name :: rest = (before ++ [name]) ++ rest := by simp
    rw [hsplit] at hn
    by_cases hlong : longestName < name.utf8ByteSize
    · have : ¬ name.utf8ByteSize ≤ longestName := by omega
      simp only [walk, hdir, Bool.not_true, Bool.false_eq_true, if_false, hlong, if_true,
        List.forall_mem_cons, this, false_and]
    · -- the next node is there because something stands at or below it
      obtain ⟨next, hnext⟩ : ∃ next, t.node? (before ++ [name]) = some next := by
        by_cases hr : rest = []
        · exact ⟨n, by simpa [hr] using hn⟩
        · have := Rooted.above ht (before ++ [name]) (by rw [content?_of_node? hn]; rfl) hr
          unfold content? at this
          rcases ho : t.node? (before ++ [name]) with _ | next
          · simp [ho] at this
          · exact ⟨next, rfl⟩
      have hrest := ih hnext hn
      simp only [walk, hdir, Bool.not_true, Bool.false_eq_true, if_false, hlong, hnext, hrest,
        List.forall_mem_cons]
      have : name.utf8ByteSize ≤ longestName := by omega
      simp [this]

/-- A walk that succeeds has met names of a possible length only, and ends where the path says. -/
theorem walk_eq_ok {t : FileTree} {before : TreePath} {node n : Node} {rest : TreePath}
    (hb : t.node? before = some node) (h : t.walk before node rest = .ok n) :
    t.node? (before ++ rest) = some n ∧ ∀ name ∈ rest, name.utf8ByteSize ≤ longestName := by
  induction rest generalizing before node with
  | nil =>
    have : node = n := by simpa [walk] using h
    simp [hb, this]
  | cons name rest ih =>
    unfold walk at h
    split at h
    · cases h
    · split at h
      · cases h
      · rename_i hlong
        cases hnext : t.node? (before ++ [name]) with
        | none => simp [hnext] at h
        | some next =>
          simp only [hnext] at h
          obtain ⟨h1, h2⟩ := ih hnext h
          refine ⟨by simpa using h1, ?_⟩
          intro other hmem
          rcases List.mem_cons.1 hmem with rfl | hmem
          · omega
          · exact h2 other hmem

/-- A path that is refused is not said to be missing. -/
theorem checkPath_ne_notFound (t : FileTree) (path : TreePath) :
    t.checkPath path ≠ .error .notFound := by
  unfold checkPath
  split
  · simp
  · split <;> simp

/-- In a tree a path leads to what stands there. -/
theorem find_eq_ok_iff {t : FileTree} (ht : t.IsTree) {path : TreePath} {n : Node} :
    t.find path = .ok n ↔ t.Nameable path ∧ t.node? path = some n := by
  unfold find Nameable
  rw [bind_eq_ok_iff]
  constructor
  · rintro ⟨u, hc, hw⟩
    obtain ⟨h1, h2⟩ := walk_eq_ok (node?_nil t) hw
    exact ⟨⟨hc, h2⟩, by simpa using h1⟩
  · rintro ⟨⟨hc, h1⟩, h2⟩
    refine ⟨(), hc, ?_⟩
    rw [walk_of_isTree ht (node?_nil t) (n := n) (by simpa using h2)]
    exact if_pos h1

/-- A directory is found only at a path that is accepted. -/
theorem nameable_of_isDirectory {t : FileTree} {path : TreePath} (h : t.isDirectory path = true) :
    t.Nameable path := by
  unfold isDirectory at h
  cases hfind : t.find path with
  | error e => simp [hfind] at h
  | ok n =>
    obtain ⟨u, hcheck, hwalk⟩ := bind_eq_ok_iff.1 hfind
    exact ⟨hcheck, (walk_eq_ok (node?_nil t) hwalk).2⟩

/-- Where a path leads nowhere, nothing stands. -/
theorem content?_of_find_notFound {t : FileTree} (ht : t.IsTree) {path : TreePath}
    (h : t.find path = .error .notFound) : t.content? path = none := by
  cases hn : t.node? path with
  | none => simp [content?, hn]
  | some n =>
    -- then the path leads there, or it is a path that the file system does not accept
    exfalso
    unfold find at h
    cases hc : t.checkPath path with
    | error e =>
      rw [hc, error_bind, Except.error.injEq] at h
      exact t.checkPath_ne_notFound path (by rw [hc, h])
    | ok u =>
      rw [hc, ok_bind, walk_of_isTree ht (node?_nil t) (n := n) (by simpa using hn)] at h
      split at h <;> cases h

/-- An operation that finds its path first, and misses nothing after that, misses what does not
stand there. -/
theorem content?_of_bind_notFound {α : Type} {t : FileTree} (ht : t.IsTree) {path : TreePath}
    {act : Node → Except IoError α} (hact : ∀ n, act n ≠ .error .notFound)
    (h : (t.find path >>= act) = .error .notFound) : t.content? path = none := by
  cases hf : t.find path with
  | ok n =>
    rw [hf, ok_bind] at h
    exact absurd h (hact n)
  | error e =>
    rw [hf, error_bind, Except.error.injEq] at h
    exact content?_of_find_notFound ht (by rw [hf, h])

/-- In a tree the bytes of a file are those that stand at its path. -/
theorem read_eq_ok_iff {t : FileTree} (ht : t.IsTree) {path : TreePath} {bytes : List UInt8} :
    t.read path = .ok bytes ↔ t.Nameable path ∧ t.file? path = some bytes := by
  unfold read
  rw [bind_eq_ok_iff, file?_eq_some_iff]
  constructor
  · rintro ⟨n, hf, hb⟩
    obtain ⟨h1, h2⟩ := (find_eq_ok_iff ht).1 hf
    refine ⟨h1, ?_⟩
    rw [content?_of_node? h2]
    cases hc : n.content with
    | directory => simp [hc] at hb
    | file b => simpa [hc] using hb
  · rintro ⟨h1, h2⟩
    obtain ⟨n, hn, hc⟩ := Option.map_eq_some_iff.1 h2
    exact ⟨n, (find_eq_ok_iff ht).2 ⟨h1, hn⟩, by simp [hc]⟩

/-- Two trees below the same base with the same file at a path answer the same bytes there. -/
theorem toOption_read_congr {t t' : FileTree} (ht : t.IsTree) (ht' : t'.IsTree)
    (hbase : t'.basePath = t.basePath) {path : TreePath} (h : t'.file? path = t.file? path) :
    (t'.read path).toOption = (t.read path).toOption := by
  have hsame : ∀ bytes, t'.read path = .ok bytes ↔ t.read path = .ok bytes := by
    intro bytes
    rw [read_eq_ok_iff ht, read_eq_ok_iff ht', nameable_congr hbase, h]
  cases hr : t.read path with
  | ok bytes => rw [(hsame bytes).2 hr]
  | error e =>
    cases hr' : t'.read path with
    | ok bytes =>
      rw [(hsame bytes).1 hr'] at hr
      cases hr
    | error e' => rfl

/-- Where a read finds nothing, nothing is. -/
theorem content?_of_read_notFound {t : FileTree} (ht : t.IsTree) {path : TreePath}
    (h : t.read path = .error .notFound) : t.content? path = none := by
  apply content?_of_bind_notFound ht _ h
  intro n
  cases n.content <;> simp

/-- A directory is listed with all its children, and what is missing is no directory. -/
theorem list_cases {t : FileTree} (ht : t.IsTree) {path : TreePath} :
    (∀ all, t.list path = .ok all → all = t.children path) ∧
      (t.list path = .error .notFound → t.content? path = none) := by
  unfold list
  refine ⟨?_, ?_⟩
  · intro all h
    obtain ⟨n, -, h⟩ := bind_eq_ok_iff.1 h
    by_cases hd : n.isDirectory
    · simpa [hd] using h.symm
    · simp [hd] at h
  · intro h
    apply content?_of_bind_notFound ht _ h
    intro n
    by_cases hd : n.isDirectory <;> simp [hd]

/-- What an operation knows that has looked at its path: the parent is a directory, and the path is
one that the file system accepts. -/
theorem entry_eq_ok {t : FileTree} {dir : TreePath} {name : String} {found : Option Node}
    (h : t.entry (dir ++ [name]) = .ok found) :
    found = t.node? (dir ++ [name]) ∧ t.content? dir = some .directory ∧
      t.Nameable (dir ++ [name]) := by
  unfold entry at h
  obtain ⟨u, hc, h⟩ := bind_eq_ok_iff.1 h
  simp only [List.getLast?_append, List.getLast?_singleton, Option.some_or,
    List.dropLast_concat] at h
  obtain ⟨parent, hw, h⟩ := bind_eq_ok_iff.1 h
  obtain ⟨h1, h2⟩ := walk_eq_ok (node?_nil t) hw
  by_cases hd : parent.isDirectory
  · by_cases hlong : longestName < name.utf8ByteSize
    · simp [hd, hlong] at h
    · simp only [hd, hlong, Bool.not_true, Bool.false_eq_true, if_false, pure_eq,
        Except.ok.injEq] at h
      refine ⟨h.symm, ?_, hc, ?_⟩
      · rw [content?_of_node? (by simpa using h1), (isDirectory_iff parent).1 hd]
      · intro other hmem
        rcases List.mem_append.1 hmem with hmem | hmem
        · exact h2 other hmem
        · rw [List.mem_singleton.1 hmem]
          omega
  · simp [hd] at h

/-- The base is there, whatever its path is. -/
theorem entry_nil {t : FileTree} {found : Option Node} (h : t.entry [] = .ok found) :
    found = some t.base := by
  obtain ⟨u, -, h⟩ := bind_eq_ok_iff.1 h
  simpa using h.symm

/-! ## Changes of what stands at a path -/

/-- Something can be put into a directory, unless a file takes the place of a directory. -/
theorem Rooted.set {c : TreePath → Option Content} (hc : Rooted c) {dir : TreePath} {name : String}
    {x : Content} (hd : c dir = some .directory)
    (hx : x = .directory ∨ c (dir ++ [name]) ≠ some .directory) :
    Rooted (update c (dir ++ [name]) (some x)) := by
  intro path other h
  by_cases hp : path = dir ++ [name]
  · -- what stands below the new content was there before, so a directory was replaced
    subst hp
    have hbelow : (c (dir ++ [name] ++ [other])).isSome := by
      rwa [update_of_ne (by simp)] at h
    have hwas := hc _ _ hbelow
    rcases hx with hx | hx
    · simp [hx]
    · exact absurd hwas hx
  · rw [update_of_ne hp]
    by_cases hq : path ++ [other] = dir ++ [name]
    · have : path = dir := (List.append_inj' hq rfl).1
      rw [this, hd]
    · rw [update_of_ne hq] at h
      exact hc path other h

/-- What has nothing below it can be taken away. -/
theorem Rooted.unset {c : TreePath → Option Content} (hc : Rooted c) {path : TreePath}
    (h : ∀ name, c (path ++ [name]) = none) : Rooted (update c path none) := by
  intro above name hs
  by_cases hq : above ++ [name] = path
  · simp [hq] at hs
  · rw [update_of_ne hq] at hs
    -- the path itself has nothing below it
    have hne : above ≠ path := by
      rintro rfl
      simp [h name] at hs
    rw [update_of_ne hne]
    exact hc above name hs

/-- Nothing stands below anything but a directory. -/
theorem Rooted.nothing_below {c : TreePath → Option Content} (hc : Rooted c) (path : TreePath)
    (h : c path ≠ some .directory) (name : String) : c (path ++ [name]) = none := by
  cases hn : c (path ++ [name]) with
  | none => rfl
  | some x => exact absurd (hc path name (by simp [hn])) h

@[simp] theorem content?_touch (t : FileTree) (path : TreePath) (now : Instant) (q : TreePath) :
    (t.touch path now).content? q = t.content? q := by
  unfold touch content? node?
  by_cases hp : path = []
  · by_cases hq : q = [] <;> simp [hp, hq, base]
  · by_cases hq : q = []
    · simp [hp, hq, base]
    · simp only [List.isEmpty_iff, hp, hq, if_false, Std.ExtTreeMap.getElem?_modify,
        Std.LawfulEqOrd.compare_eq_iff_eq]
      by_cases hpq : path = q
      · subst hpq
        cases t.nodes[path]? <;> simp
      · simp [hpq]

theorem content?_insert (t : FileTree) {path : TreePath} (hp : path ≠ []) (n : Node) :
    content? { t with nodes := t.nodes.insert path n } =
      update t.content? path (some n.content) := by
  funext q
  by_cases hq : q = path
  · subst hq
    simp [content?, node?, hp]
  · rw [update_of_ne hq]
    by_cases hn : q = []
    · simp [content?, node?, hn, base]
    · simp [content?, node?, hn, Std.ExtTreeMap.getElem?_insert, Ne.symm hq]

theorem content?_place (t : FileTree) {path : TreePath} (hp : path ≠ []) (n : Node)
    (now : Instant) : (t.place path n now).content? = update t.content? path (some n.content) := by
  funext q
  unfold place
  rw [content?_touch, content?_insert t hp n]

theorem content?_erase (t : FileTree) {path : TreePath} (hp : path ≠ []) (now : Instant) :
    (t.erase path now).content? = update t.content? path none := by
  funext q
  unfold erase
  rw [content?_touch]
  by_cases hq : q = path
  · subst hq
    simp [content?, node?, hp]
  · rw [update_of_ne hq]
    by_cases hn : q = []
    · simp [content?, node?, hn, base]
    · simp [content?, node?, hn, Std.ExtTreeMap.getElem?_erase, Ne.symm hq]

@[simp] theorem basePath_touch (t : FileTree) (path : TreePath) (now : Instant) :
    (t.touch path now).basePath = t.basePath := by
  unfold touch
  split <;> rfl

@[simp] theorem basePath_place (t : FileTree) (path : TreePath) (n : Node) (now : Instant) :
    (t.place path n now).basePath = t.basePath :=
  basePath_touch _ _ _

@[simp] theorem basePath_erase (t : FileTree) (path : TreePath) (now : Instant) :
    (t.erase path now).basePath = t.basePath :=
  basePath_touch _ _ _

/-- A change at one path leaves the files at all others. -/
theorem file?_of_update {t t' : FileTree} {path q : TreePath} {x : Option Content}
    (h : t'.content? = update t.content? path x) (hq : q ≠ path) : t'.file? q = t.file? q := by
  unfold file?
  rw [h, update_of_ne hq]

/-- At the path itself there is a file if and only if one was put there. -/
theorem file?_at_update {t t' : FileTree} {path : TreePath} {x : Option Content}
    (h : t'.content? = update t.content? path x) : t'.file? path = x.bind Content.bytes? := by
  unfold file?
  rw [h, update_self]

/-! ## Operations that succeed -/

section Operations

variable {t t' : FileTree} {now : Instant} {dir path : TreePath} {name : String}

/-- A directory was made in another one, where nothing was. -/
theorem makeDirectory_eq_ok (h : makeDirectory now (dir ++ [name]) t = .ok t') :
    t.content? dir = some .directory ∧ t.content? (dir ++ [name]) = none ∧
      t'.content? = update t.content? (dir ++ [name]) (some .directory) := by
  obtain ⟨found, he, h⟩ := bind_eq_ok_iff.1 h
  obtain ⟨hf, hd, -⟩ := entry_eq_ok he
  cases found with
  | some n => simp at h
  | none =>
    have ht' : t' = t.place (dir ++ [name]) ⟨.directory, now⟩ now := by simpa using h.symm
    refine ⟨hd, by simp [content?, ← hf], ?_⟩
    rw [ht', content?_place t (by simp)]

/-- A file was written in a directory, where no directory was. -/
theorem writeFile_eq_ok {bytes : List UInt8}
    (h : writeFile now (dir ++ [name]) bytes t = .ok t') :
    t.content? dir = some .directory ∧ t.content? (dir ++ [name]) ≠ some .directory ∧
      t'.content? = update t.content? (dir ++ [name]) (some (.file bytes)) := by
  obtain ⟨found, he, h⟩ := bind_eq_ok_iff.1 h
  obtain ⟨hf, hd, -⟩ := entry_eq_ok he
  refine ⟨hd, ?_⟩
  cases found with
  | none =>
    have ht' : t' = t.place (dir ++ [name]) ⟨.file bytes, now⟩ now := by simpa using h.symm
    refine ⟨by simp [content?, ← hf], ?_⟩
    rw [ht', content?_place t (by simp)]
  | some n =>
    -- a file that is there keeps its place and gets new bytes
    have hc : t.content? (dir ++ [name]) = some n.content := content?_of_node? hf.symm
    by_cases hn : n.isDirectory
    · simp [hn] at h
    · have ht' : t' = { t with nodes := t.nodes.insert (dir ++ [name]) ⟨.file bytes, now⟩ } := by
        simpa [hn] using h.symm
      refine ⟨?_, ?_⟩
      · rw [hc]
        simpa [isDirectory_iff] using hn
      · rw [ht', content?_insert t (by simp)]

/-- What was removed as a file was one. -/
theorem removeFile_eq_ok (ht : t.IsTree) (h : removeFile now path t = .ok t') :
    (∃ bytes, t.content? path = some (.file bytes)) ∧
      t'.content? = update t.content? path none := by
  obtain ⟨n, hf, h⟩ := bind_eq_ok_iff.1 h
  have hc : t.content? path = some n.content := content?_of_node? ((find_eq_ok_iff ht).1 hf).2
  cases hn : n.content with
  | directory =>
    have : n.isDirectory = true := (isDirectory_iff n).2 hn
    simp [this] at h
  | file bytes =>
    have hd : n.isDirectory = false := by simp [Node.isDirectory, hn]
    have ht' : t' = t.erase path now := by simpa [hd] using h.symm
    have hp : path ≠ [] := by
      rintro rfl
      simp [content?_nil, hn] at hc
    exact ⟨⟨bytes, by rw [hc, hn]⟩, by rw [ht', content?_erase t hp]⟩

/-- A directory lists everything that stands in it. -/
theorem mem_children {n : Node} (h : t.node? (path ++ [name]) = some n) :
    (name, n.isDirectory) ∈ t.children path := by
  rw [node?_of_ne_nil t (by simp)] at h
  unfold children
  rw [List.mem_filterMap]
  refine ⟨(path ++ [name], n), ?_, by simp⟩
  exact Std.ExtTreeMap.mem_toList_iff_getElem?_eq_some.2 h

/-- What was removed as a directory was empty. -/
theorem removeDirectory_eq_ok (hp : path ≠ [])
    (h : removeDirectory now path t = .ok t') :
    (∀ name, t.content? (path ++ [name]) = none) ∧ t'.content? = update t.content? path none := by
  obtain ⟨n, hf, h⟩ := bind_eq_ok_iff.1 h
  by_cases hd : n.isDirectory
  · by_cases hc : t.children path = []
    · have ht' : t' = t.erase path now := by simpa [hd, hc] using h.symm
      refine ⟨?_, by rw [ht', content?_erase t hp]⟩
      intro name
      cases hn : t.node? (path ++ [name]) with
      | none => simp [content?, hn]
      | some n =>
        -- it would be listed
        have := mem_children hn
        rw [hc] at this
        cases this
    · simp [hd, hc] at h
  · simp [hd] at h

/-- What was moved now stands at its target, where no directory was, and nowhere else. -/
theorem moveFile_eq_ok (ht : t.IsTree) {source : TreePath} (hs : source ≠ [])
    (h : moveFile now source (dir ++ [name]) t = .ok t') :
    ∃ c, t.content? source = some c ∧ t.content? dir = some .directory ∧
      t.content? (dir ++ [name]) ≠ some .directory ∧ t.Nameable (dir ++ [name]) ∧
      t'.content? = update (update t.content? source none) (dir ++ [name]) (some c) := by
  unfold moveFile at h
  by_cases hz : hasNul (dir ++ [name])
  · simp [hz] at h
  · simp only [hz, Bool.false_eq_true, if_false] at h
    obtain ⟨moved, hf, h⟩ := bind_eq_ok_iff.1 h
    obtain ⟨found, he, h⟩ := bind_eq_ok_iff.1 h
    obtain ⟨hfound, hd, hname⟩ := entry_eq_ok he
    have hc : t.content? source = some moved.content :=
      content?_of_node? ((find_eq_ok_iff ht).1 hf).2
    have hresult : t' = (t.erase source now).place (dir ++ [name]) moved now := by
      cases found with
      | none => simpa using h.symm
      | some n =>
        by_cases hn : n.isDirectory
        · simp [hn] at h
        · simpa [hn] using h.symm
    refine ⟨moved.content, hc, hd, ?_, hname, ?_⟩
    · cases found with
      | none => simp [content?, ← hfound]
      | some n =>
        rw [content?_of_node? hfound.symm]
        intro hdir
        have : n.isDirectory = true := (isDirectory_iff n).2 (Option.some.inj hdir)
        simp [this] at h
    · rw [hresult, content?_place _ (by simp), content?_erase t hs]

/-- What cannot be removed because it is missing does not stand there. -/
theorem content?_of_removeFile_notFound (ht : t.IsTree)
    (h : removeFile now path t = .error .notFound) : t.content? path = none := by
  apply content?_of_bind_notFound ht _ h
  intro n
  by_cases hd : n.isDirectory <;> simp [hd]

/-- Where a removal says that nothing is, nothing is. -/
theorem content?_of_removeDirectory_notFound (ht : t.IsTree)
    (h : removeDirectory now path t = .error .notFound) : t.content? path = none := by
  apply content?_of_bind_notFound ht _ h
  intro n
  by_cases hd : n.isDirectory
  · by_cases hc : t.children path = [] <;> simp [hd, hc]
  · simp [hd]

/-! ## The base stays -/

/-- An operation that leaves the base where it is. -/
def KeepsBase (act : FileTree → Except IoError FileTree) : Prop :=
  ∀ t t', act t = .ok t' → t'.basePath = t.basePath

theorem keepsBase_makeDirectory (now : Instant) (path : TreePath) :
    KeepsBase (FileTree.makeDirectory now path) := by
  intro t t' h
  obtain ⟨found, -, h⟩ := bind_eq_ok_iff.1 h
  cases found with
  | some n => cases h
  | none =>
    cases h
    exact basePath_place _ _ _ _

theorem keepsBase_writeFile (now : Instant) (path : TreePath) (bytes : List UInt8) :
    KeepsBase (FileTree.writeFile now path bytes) := by
  intro t t' h
  obtain ⟨found, -, h⟩ := bind_eq_ok_iff.1 h
  cases found with
  | none =>
    cases h
    exact basePath_place _ _ _ _
  | some n =>
    by_cases hn : n.isDirectory
    · simp [hn] at h
    · have ht' : t' = { t with nodes := t.nodes.insert path ⟨.file bytes, now⟩ } := by
        simpa [hn] using h.symm
      rw [ht']

theorem keepsBase_removeFile (now : Instant) (path : TreePath) :
    KeepsBase (FileTree.removeFile now path) := by
  intro t t' h
  obtain ⟨n, -, h⟩ := bind_eq_ok_iff.1 h
  by_cases hd : n.isDirectory
  · simp [hd] at h
  · have ht' : t' = t.erase path now := by simpa [hd] using h.symm
    rw [ht', basePath_erase]

theorem keepsBase_removeDirectory (now : Instant) (path : TreePath) :
    KeepsBase (FileTree.removeDirectory now path) := by
  intro t t' h
  obtain ⟨n, -, h⟩ := bind_eq_ok_iff.1 h
  by_cases hd : n.isDirectory
  · by_cases hc : t.children path = []
    · have ht' : t' = t.erase path now := by simpa [hd, hc] using h.symm
      rw [ht', basePath_erase]
    · simp [hd, hc] at h
  · simp [hd] at h

theorem keepsBase_moveFile (now : Instant) (source target : TreePath) :
    KeepsBase (FileTree.moveFile now source target) := by
  intro t t' h
  unfold FileTree.moveFile at h
  by_cases hz : hasNul target
  · simp [hz] at h
  · simp only [hz, Bool.false_eq_true, if_false] at h
    obtain ⟨moved, -, h⟩ := bind_eq_ok_iff.1 h
    obtain ⟨found, -, h⟩ := bind_eq_ok_iff.1 h
    have hresult : t' = (t.erase source now).place target moved now := by
      cases found with
      | none => simpa using h.symm
      | some n =>
        by_cases hn : n.isDirectory
        · simp [hn] at h
        · simpa [hn] using h.symm
    rw [hresult, basePath_place, basePath_erase]

/-! ## Trees stay trees -/

/-- What is made in a directory stands in one. -/
theorem IsTree.makeDirectory (ht : t.IsTree) (h : makeDirectory now (dir ++ [name]) t = .ok t') :
    t'.IsTree := by
  obtain ⟨hd, -, hcontent⟩ := makeDirectory_eq_ok h
  unfold IsTree
  rw [hcontent]
  exact Rooted.set ht hd (Or.inl rfl)

theorem IsTree.writeFile {bytes : List UInt8} (ht : t.IsTree)
    (h : writeFile now (dir ++ [name]) bytes t = .ok t') : t'.IsTree := by
  obtain ⟨hd, hnd, hcontent⟩ := writeFile_eq_ok h
  unfold IsTree
  rw [hcontent]
  exact Rooted.set ht hd (Or.inr hnd)

/-- Whatever is no directory can be taken away. -/
theorem IsTree.erase (ht : t.IsTree) (hp : path ≠ []) (hf : t.content? path ≠ some .directory) :
    (t.erase path now).IsTree := by
  unfold IsTree
  rw [content?_erase t hp]
  exact Rooted.unset ht (Rooted.nothing_below ht path hf)

theorem IsTree.removeFile (ht : t.IsTree) (h : removeFile now path t = .ok t') : t'.IsTree := by
  obtain ⟨⟨bytes, hf⟩, hcontent⟩ := removeFile_eq_ok ht h
  unfold IsTree
  rw [hcontent]
  exact Rooted.unset ht (Rooted.nothing_below ht _ (by simp [hf]))

theorem IsTree.removeDirectory (ht : t.IsTree) (hp : path ≠ [])
    (h : removeDirectory now path t = .ok t') : t'.IsTree := by
  obtain ⟨hempty, hcontent⟩ := removeDirectory_eq_ok hp h
  unfold IsTree
  rw [hcontent]
  exact Rooted.unset ht hempty

/-- A file can be moved. -/
theorem IsTree.moveFile {source : TreePath} {bytes : List UInt8} (ht : t.IsTree)
    (hs : source ≠ []) (hf : t.content? source = some (.file bytes))
    (h : moveFile now source (dir ++ [name]) t = .ok t') : t'.IsTree := by
  obtain ⟨c, hc, hd, hnd, -, hcontent⟩ := moveFile_eq_ok ht hs h
  have hgone : Rooted (update t.content? source none) :=
    Rooted.unset ht (Rooted.nothing_below ht _ (by simp [hf]))
  -- a file is no directory, so it is not moved into itself
  have hdir : dir ≠ source := by
    rintro rfl
    simp [hf] at hd
  have htarget : update t.content? source none (dir ++ [name]) ≠ some .directory := by
    by_cases hq : dir ++ [name] = source
    · simp [hq]
    · rwa [update_of_ne hq]
  unfold IsTree
  rw [hcontent]
  exact Rooted.set hgone (by rwa [update_of_ne hdir]) (Or.inr htarget)

end Operations

end FileTree
end CacheService
