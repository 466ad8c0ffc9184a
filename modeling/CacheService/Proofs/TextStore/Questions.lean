import CacheService.Proofs.TextStore.Calls

/-!
# What questions about texts depend on

To read a text or to list names takes one call of the disk, and its outcome decides what is answered
(`find_fst`, `names_fst`, `textTypes_fst`). The outcome in turn depends on what stands on the path
and in the directory that is listed. No question leads into the staging directory, so what is in
there is never seen, however far a write has come (`stagingUnseen`).
-/

namespace CacheService

/-! ## Following paths -/

namespace FileTree

variable {t t' : FileTree} {path : TreePath}

/-- Two walks that fail for the same reason, or come to the same content. -/
inductive EndsAlike : Except IoError Node → Except IoError Node → Prop
  | found {n n' : Node} (content : n'.content = n.content) : EndsAlike (.ok n) (.ok n')
  | failed (e : IoError) : EndsAlike (.error e) (.error e)

theorem isDirectory_congr {n n' : Node} (h : n'.content = n.content) :
    n'.isDirectory = n.isDirectory := by
  unfold Node.isDirectory
  rw [h]

/-- What stands on a path decides where it leads. -/
theorem walk_endsAlike {before rest : TreePath} {node node' : Node}
    (hnode : node'.content = node.content)
    (h : ∀ front, front <+: before ++ rest → t'.content? front = t.content? front) :
    EndsAlike (t.walk before node rest) (t'.walk before node' rest) := by
  induction rest generalizing before node node' with
  | nil => exact .found hnode
  | cons name rest ih =>
    have hsplit : before ++ name :: rest = before ++ [name] ++ rest := by simp
    rw [hsplit] at h
    have hnext := h (before ++ [name]) (List.prefix_append _ _)
    simp only [walk, isDirectory_congr hnode]
    split
    · exact .failed _
    split
    · exact .failed _
    -- the next node stands in both trees with the same content, or in neither
    unfold content? at hnext
    cases hn : t.node? (before ++ [name]) with
    | none =>
      rw [hn, Option.map_none, Option.map_eq_none_iff] at hnext
      rw [hnext]
      exact .failed _
    | some next =>
      rw [hn, Option.map_some, Option.map_eq_some_iff] at hnext
      obtain ⟨next', hn', hsame⟩ := hnext
      rw [hn']
      exact ih hsame h

/-- A walk depends on nothing but what stands on the way. -/
theorem find_endsAlike (hbase : t'.basePath = t.basePath)
    (h : ∀ front, front <+: path → t'.content? front = t.content? front) :
    EndsAlike (t.find path) (t'.find path) := by
  unfold find
  rw [checkPath_congr hbase]
  cases t.checkPath path with
  | error e => exact .failed e
  | ok u => exact walk_endsAlike rfl h

theorem read_congr (hbase : t'.basePath = t.basePath)
    (h : ∀ front, front <+: path → t'.content? front = t.content? front) :
    t'.read path = t.read path := by
  have hends := find_endsAlike hbase h
  unfold read
  generalize t.find path = before at hends ⊢
  generalize t'.find path = after at hends ⊢
  cases hends with
  | failed e => rfl
  | found content => rw [Outcome.ok_bind, Outcome.ok_bind, content]

end FileTree

namespace TextFiles

open FileTree Outcome

variable {α : Type} {t t' : FileTree} {path : TreePath} {directories : Bool}

/-! ## Listing -/

theorem listed_congr (h : ∀ name, t'.content? (path ++ [name]) = t.content? (path ++ [name])) :
    listed t' path directories = listed t path directories := by
  have hcontent (t : FileTree) (name : String) : name ∈ listed t path directories ↔
      ∃ c, t.content? (path ++ [name]) = some c ∧ (c = .directory ↔ directories = true) := by
    rw [mem_listed, content?]
    cases t.node? (path ++ [name]) with
    | none => simp
    | some n => simp only [Option.map_some, Option.some.injEq, exists_eq_left', ← isDirectory_iff,
        Bool.coe_iff_coe]
  apply names_ext pairwise_listed pairwise_listed
  intro name
  rw [hcontent, hcontent, h]

/-- The names in a directory that are directories, or those that are not, if it can be listed. -/
def listing (t : FileTree) (path : TreePath) (directories : Bool) : Except IoError (List String) :=
  (t.list path).map fun _ => listed t path directories

/-- A listing depends on what stands on the way and directly below its end. -/
theorem listing_congr (hbase : t'.basePath = t.basePath)
    (h : ∀ front, front <+: path → t'.content? front = t.content? front)
    (hnames : ∀ name, t'.content? (path ++ [name]) = t.content? (path ++ [name])) :
    listing t' path directories = listing t path directories := by
  have hends := find_endsAlike hbase h
  unfold listing FileTree.list
  rw [listed_congr hnames]
  generalize t.find path = before at hends ⊢
  generalize t'.find path = after at hends ⊢
  cases hends with
  | failed e => rfl
  | @found n n' content =>
    rw [ok_bind, ok_bind, isDirectory_congr content]
    cases n.isDirectory <;> rfl

/-! ## Answers -/

/-- What a call about a path answers where nothing need be. -/
def foundOf (f : TextFiles) (path : TreePath) : Except IoError α → Outcome (Option α)
  | .ok a => .ok (some a)
  | .error .notFound => .ok none
  | .error e => .error (f.failure path e)

theorem callFound_fst (f : TextFiles) (path : TreePath) (act : Disk → Except IoError α × Disk) :
    (f.callFound path act).1 = f.foundOf path (act f.disk).1 := by
  unfold callFound call
  rcases hact : act f.disk with ⟨e | a, d⟩
  · cases e <;> simp only [hact] <;> rfl
  · simp only [hact]
    rfl

/-- The text in a file that was found. -/
def unpacked (f : TextFiles) (path : TreePath) : Option (List UInt8) → Outcome (Option String)
  | none => .ok none
  | some bytes => ((f.textOf bytes).map some).mapError (f.failure path)

/-- A text is found by a check, a call and an unpacking. -/
theorem find_fst (f : TextFiles) (key : TextKey) :
    (f.find key).1 = f.entryPath key >>= fun path =>
      f.foundOf path (f.disk.look fun t => t.read path).1 >>= f.unpacked path := by
  unfold find
  cases f.entryPath key with
  | error e => rfl
  | ok path =>
    rw [ok_bind, ← callFound_fst f path fun d => d.look fun t => t.read path]
    rcases hc : f.callFound path fun d => d.look fun t => t.read path with ⟨e | _ | bytes, after⟩
    · simp only [hc, error_bind]
    · simp only [hc, ok_bind, unpacked]
    · obtain ⟨rfl, -⟩ := call_eq hc
      simp only [hc, ok_bind, unpacked]
      rfl

theorem names_fst (f : TextFiles) (path : TreePath) (directories : Bool) :
    (f.names path directories).1 =
      (f.foundOf path (f.disk.look fun t => listing t path directories).1).map
        fun found => found.getD [] := by
  unfold names
  dsimp only
  rw [callFound_fst]
  simp only [Disk.look]
  cases f.disk.fault (f.disk.calls + 1) with
  | some e => cases e <;> rfl
  | none =>
    unfold listing FileTree.list
    cases f.disk.tree.find path with
    | error e => cases e <;> rfl
    | ok n =>
      dsimp only
      rw [ok_bind]
      cases n.isDirectory <;> rfl

theorem ids_fst (f : TextFiles) (textType : String) :
    (f.ids textType).1 = f.typePath textType >>= fun path => (f.names path false).1 := by
  unfold ids
  cases f.typePath textType <;> rfl

theorem textTypes_fst (f : TextFiles) :
    f.textTypes.1 =
      (f.names f.root true).1 >>= fun all => .ok (all.filter (· != TextName.staging)) := by
  unfold textTypes
  rcases f.names f.root true with ⟨e | all, after⟩ <;> rfl

/-! ## The staging directory -/

/-- The same place and the same faults to come, over another tree. -/
def withTree (f : TextFiles) (tree : FileTree) : TextFiles :=
  { f with disk := { f.disk with tree } }

/-- A tree that is the same but for what is in the staging directory. -/
structure SameBesideStaging (f : TextFiles) (tree : FileTree) : Prop where
  basePath : tree.basePath = f.disk.tree.basePath
  content : ∀ q, ¬ (f.stagingPath <+: q ∧ q ≠ f.stagingPath) →
    tree.content? q = f.disk.tree.content? q

/-- What is in the staging directory makes no difference to what is answered. -/
structure StagingUnseen (f : TextFiles) : Prop where
  find : ∀ tree, f.SameBesideStaging tree → ∀ key, ((f.withTree tree).find key).1 = (f.find key).1
  ids : ∀ tree, f.SameBesideStaging tree → ∀ textType,
    ((f.withTree tree).ids textType).1 = (f.ids textType).1
  textTypes : ∀ tree, f.SameBesideStaging tree → (f.withTree tree).textTypes.1 = f.textTypes.1
  unlisted : ∀ types, f.textTypes.1 = .ok types → TextName.staging ∉ types

section Staging

variable {f : TextFiles} {tree : FileTree}

/-- The staging directory is not on the way to a text. -/
theorem not_prefix_of_ne_staging {textType : String} (h : textType ≠ TextName.staging)
    (rest : TreePath) : ¬ f.stagingPath <+: f.root ++ [textType] ++ rest := by
  rw [stagingPath, List.append_assoc, List.prefix_append_right_inj, List.singleton_append,
    List.cons_prefix_cons]
  exact fun hfront => h hfront.1.symm

namespace SameBesideStaging

/-- The root and what is directly in it are the same. -/
theorem short (h : f.SameBesideStaging tree) {q : TreePath} (hq : q.length ≤ f.root.length + 1) :
    tree.content? q = f.disk.tree.content? q := by
  apply h.content
  rintro ⟨hfront, hne⟩
  exact hne (hfront.eq_of_length_le (by simpa [stagingPath] using hq)).symm

/-- What is on the way to a text is the same. -/
theorem front (h : f.SameBesideStaging tree) {textType : String} {rest q : TreePath}
    (htype : textType ≠ TextName.staging) (hq : q <+: f.root ++ [textType] ++ rest) :
    tree.content? q = f.disk.tree.content? q := by
  apply h.content
  rintro ⟨hfront, -⟩
  exact not_prefix_of_ne_staging htype rest (hfront.trans hq)

end SameBesideStaging

theorem look_withTree {g : FileTree → Except IoError α} (h : g tree = g f.disk.tree) :
    ((f.withTree tree).disk.look g).1 = (f.disk.look g).1 := by
  simp only [Disk.look, withTree, h]

theorem names_withTree (h : listing tree path directories = listing f.disk.tree path directories) :
    ((f.withTree tree).names path directories).1 = (f.names path directories).1 := by
  rw [names_fst, names_fst, look_withTree h]
  rfl

/-- Whatever is in the staging directory, no question is answered otherwise. -/
theorem stagingUnseen (f : TextFiles) : f.StagingUnseen where
  find := by
    intro tree h key
    have hsame : (f.withTree tree).entryPath key = f.entryPath key := rfl
    rw [find_fst, find_fst, hsame]
    cases hp : f.entryPath key with
    | error e => rfl
    | ok path =>
      obtain ⟨rfl, htype⟩ := entryPath_eq_ok hp
      rw [ok_bind, ok_bind, look_withTree (read_congr h.basePath fun q hq => h.front htype hq)]
      rfl
  ids := by
    intro tree h textType
    have hsame : (f.withTree tree).typePath textType = f.typePath textType := rfl
    rw [ids_fst, ids_fst, hsame]
    cases hp : f.typePath textType with
    | error e => rfl
    | ok path =>
      obtain ⟨rfl, htype⟩ := typePath_eq_ok hp
      rw [ok_bind, ok_bind]
      apply names_withTree
      apply listing_congr h.basePath
      · intro q hq
        exact h.short (by simpa using hq.length_le)
      · intro name
        exact h.front htype (List.prefix_refl _)
  textTypes := by
    intro tree h
    rw [textTypes_fst, textTypes_fst]
    have hsame : ((f.withTree tree).names f.root true).1 = (f.names f.root true).1 := by
      apply names_withTree
      apply listing_congr h.basePath
      · intro q hq
        exact h.short (Nat.le_succ_of_le hq.length_le)
      · intro name
        exact h.short (by simp)
    exact congrArg (· >>= _) hsame
  unlisted := by
    intro types h
    rw [textTypes_fst] at h
    obtain ⟨all, -, hall⟩ := bind_eq_ok_iff.1 h
    rw [← Except.ok.inj hall]
    simp

end Staging

end TextFiles
end CacheService
