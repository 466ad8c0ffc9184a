import CacheService.Proofs.TextStore.Confinement
import CacheService.Proofs.TextStore.Failure
import CacheService.Proofs.TextStore.NewDirectories
import CacheService.Proofs.TextStore.Questions

/-!
# What is answered after a put that failed

A put makes the directory of the type and the staging directory, writes the text to a file in the
latter, and moves that file to its place. Wherever it fails, the files are as they were, and what is
left behind are directories (`Grows.write`). So texts and names are answered as before, except that
a path may lead further now, up to a name that is too long (`AnswersAs`).
-/

namespace CacheService
namespace TextFiles

open FileTree Outcome

/-! ## Writes that fail -/

/-- A file is staged where nothing stands. -/
theorem content?_stagedPath (f : TextFiles) : f.disk.tree.content? f.stagedPath = none := by
  have hfree := f.staging.free f.disk f.stagingPath
  rw [content?, node?_of_ne_nil _ (by simp [stagedPath]), Option.map_eq_none_iff]
  exact Std.ExtTreeMap.getElem?_eq_none_of_contains_eq_false hfree

/-- The directories that a write can make. -/
def OnTheWay (f : TextFiles) (textType : String) (q : TreePath) : Prop :=
  q <+: f.root ++ [textType] ∨ q <+: f.stagingPath

/-- The same layout, and a disk that has gained directories. -/
structure Grows (made : TreePath → Prop) (f f' : TextFiles) : Prop where
  layout : f'.toTextLayout = f.toTextLayout
  tree : Gains made f.disk.tree f'.disk.tree

variable {made : TreePath → Prop} {f f' f'' : TextFiles} {key : TextKey}

namespace Grows

theorem root (h : Grows made f f') : f'.root = f.root := by
  rw [h.layout]

theorem refl (f : TextFiles) : Grows made f f :=
  ⟨rfl, .refl _⟩

theorem trans (h : Grows made f f') (h' : Grows made f' f'') : Grows made f f'' where
  layout := h'.layout.trans h.layout
  tree := h.tree.trans h'.tree

/-- To make directories gains those on the way, even if it fails. -/
theorem makeDirectories {path : TreePath} {outcome : Outcome Unit}
    (hmade : ∀ q, q <+: path → made q)
    (h : f.call path (fun d => d.makeDirectories path) = (outcome, f')) : Grows made f f' := by
  obtain ⟨rfl, -⟩ := call_eq h
  exact ⟨rfl, (f.disk.gains_makeDirectories path).mono hmade⟩

/-- A file that could not be replaced has left nothing behind. -/
theorem replaceFile {path : TreePath} {bytes : List UInt8} {e : CacheError}
    (h : f.call path (fun d => d.replaceFile f.stagedPath path bytes) = (.error e, f')) :
    Grows made f f' := by
  obtain ⟨rfl, houtcome⟩ := call_eq h
  obtain ⟨name, hstaged⟩ := f.stagedPath_eq
  have hfree := f.content?_stagedPath
  -- the staged file is taken away again, and nothing had to give way to it
  rw [hstaged] at hfree houtcome ⊢
  rcases hr : f.disk.replaceFile (f.stagingPath ++ [name]) path bytes with ⟨e' | u, d⟩ <;>
    rw [hr] at houtcome
  · exact ⟨rfl, Disk.replaceFile_failed hfree hr⟩
  · cases houtcome

/-- What a write leaves that fails: directories on the way to the type and to the staged file. -/
theorem write {text : String} {e : CacheError} (h : f.write key text = (.error e, f')) :
    Grows (f.OnTheWay key.textType) f f' := by
  -- each step adds directories to those before it, and the write ends at the first failure
  unfold TextFiles.write at h
  cases hp : f.typePath key.textType with
  | error e' =>
    simp only [hp] at h
    obtain ⟨-, rfl⟩ := Prod.mk.inj h
    exact .refl f
  | ok directory =>
    simp only [hp] at h
    obtain ⟨rfl, -⟩ := typePath_eq_ok hp
    rcases h1 : f.call (f.root ++ [key.textType])
      (fun d => d.makeDirectories (f.root ++ [key.textType])) with ⟨e' | u, f1⟩ <;>
      have hg1 : Grows (f.OnTheWay key.textType) f f1 :=
        makeDirectories (fun q hq => .inl hq) h1 <;>
      simp only [h1] at h
    · obtain ⟨-, rfl⟩ := Prod.mk.inj h
      exact hg1
    have hstaging : f1.stagingPath = f.stagingPath := by rw [stagingPath, hg1.root, stagingPath]
    rw [hstaging] at h
    rcases h2 : f1.call f.stagingPath (fun d => d.makeDirectories f.stagingPath)
      with ⟨e' | u, f2⟩ <;>
      have hg2 := hg1.trans (makeDirectories (fun q hq => .inr hq) h2) <;> simp only [h2] at h
    · obtain ⟨-, rfl⟩ := Prod.mk.inj h
      exact hg2
    cases hpath : f2.entryPath key with
    | error e' =>
      simp only [hpath] at h
      obtain ⟨-, rfl⟩ := Prod.mk.inj h
      exact hg2
    | ok path =>
      simp only [hpath] at h
      exact hg2.trans (.replaceFile h)

end Grows

/-! ## Questions -/

/-- A question about a path is answered as before. Or nothing was found, since a directory on the
path was missing that is there now, and a name on the path turns out to be too long. -/
def AnswersAs {α : Type} (f f' : TextFiles) (path : TreePath) (nothing : α)
    (before after : Outcome α) : Prop :=
  after = before ∨
    (before = .ok nothing ∧ after = .error (f.failure path .nameTooLong) ∧
      Opened f.disk.tree f'.disk.tree path ∧ TooLong path)

/-- The next call has the same fault, or none. -/
def MeetsAlike (f f' : TextFiles) : Prop :=
  f'.disk.fault (f'.disk.calls + 1) = f.disk.fault (f.disk.calls + 1)

variable {α β : Type} {path : TreePath}

/-- The next call fails on both disks in the same way, or tells what each tree says. -/
theorem MeetsAlike.look (h : MeetsAlike f f') (g : FileTree → Except IoError α) :
    (∃ e, (f.disk.look g).1 = .error e ∧ (f'.disk.look g).1 = .error e) ∨
      ((f.disk.look g).1 = g f.disk.tree ∧ (f'.disk.look g).1 = g f'.disk.tree) := by
  unfold MeetsAlike at h
  unfold Disk.look
  dsimp only
  rw [h]
  cases f.disk.fault (f.disk.calls + 1) with
  | some e => exact .inl ⟨e, rfl, rfl⟩
  | none => exact .inr ⟨rfl, rfl⟩

/-- What is made of nothing is nothing. -/
theorem AnswersAs.bind {nothing : α} {nothing' : β} {x x' : Outcome α}
    (h : AnswersAs f f' path nothing x x') {g : α → Outcome β} (hg : g nothing = .ok nothing') :
    AnswersAs f f' path nothing' (x >>= g) (x' >>= g) := by
  rcases h with rfl | ⟨rfl, rfl, hopened, hlong⟩
  · exact .inl rfl
  · exact .inr ⟨hg, rfl, hopened, hlong⟩

/-- On a path without overlong names nothing but the same can be answered. -/
theorem AnswersAs.eq_of_nameable {nothing : α} {x x' : Outcome α}
    (h : AnswersAs f f' path nothing x x') (hname : f.disk.tree.Nameable path) : x' = x := by
  rcases h with hsame | ⟨-, -, -, name, hmem, hlong⟩
  · exact hsame
  · have := hname.2 name hmem
    omega

def typesIn (t : FileTree) (root : TreePath) : List String :=
  (listed t root true).filter (· != TextName.staging)

theorem mem_typesIn {t : FileTree} {root : TreePath} {name : String} :
    name ∈ typesIn t root ↔
      t.content? (root ++ [name]) = some .directory ∧ name ≠ TextName.staging := by
  rw [typesIn, List.mem_filter, mem_listed, content?, Option.map_eq_some_iff]
  simp only [isDirectory_iff, bne_iff_ne]

/-- Of directories that are new, the one of a type is listed, and the staging directory is not. -/
theorem typesIn_of_gains {t t' : FileTree} {root : TreePath} {textType : String}
    (h : Gains made t t')
    (hmade : ∀ name, made (root ++ [name]) → name = textType ∨ name = TextName.staging) :
    typesIn t' root = typesIn t root ∨
      (textType ∉ typesIn t root ∧ (typesIn t' root).erase textType = typesIn t root) := by
  have hordered (t : FileTree) : (typesIn t root).Pairwise fun a b => compare a b = .lt :=
    pairwise_listed.filter _
  -- the names from before are listed still, and at most one is new
  have hkept : ∀ name ∈ typesIn t root, name ∈ typesIn t' root := by
    intro name hmem
    rw [mem_typesIn] at hmem ⊢
    exact ⟨h.kept _ _ hmem.1, hmem.2⟩
  have hother : ∀ name ∈ typesIn t' root, name ≠ textType → name ∈ typesIn t root := by
    intro name hmem hne
    rw [mem_typesIn] at hmem ⊢
    refine ⟨?_, hmem.2⟩
    cases hc : t.content? (root ++ [name]) with
    | some c => rw [← h.kept _ _ hc, hmem.1]
    | none =>
      rcases h.gained _ hc with hnone | ⟨-, hnew⟩
      · rw [hnone] at hmem
        cases hmem.1
      · exact absurd (hmade name hnew) (not_or.2 ⟨hne, hmem.2⟩)
  by_cases hold : textType ∈ typesIn t root
  · left
    apply names_ext (hordered t') (hordered t)
    intro name
    by_cases hname : name = textType
    · rw [hname]
      exact ⟨fun _ => hold, fun _ => hkept _ hold⟩
    · exact ⟨fun hmem => hother name hmem hname, hkept name⟩
  · right
    refine ⟨hold, names_ext ((hordered t').sublist List.erase_sublist) (hordered t) fun name => ?_⟩
    rw [(nodup_of_ordered (hordered t')).mem_erase_iff]
    constructor
    · rintro ⟨hname, hmem⟩
      exact hother name hmem hname
    · intro hmem
      refine ⟨?_, hkept name hmem⟩
      rintro rfl
      exact hold hmem

namespace Grows

theorem entryPath (h : Grows made f f') (key : TextKey) : f'.entryPath key = f.entryPath key :=
  entryPath_congr h.layout key

theorem typePath (h : Grows made f f') (textType : String) :
    f'.typePath textType = f.typePath textType := by
  simp only [TextFiles.typePath, h.root]

theorem failure (h : Grows made f f') (path : TreePath) : f'.failure path = f.failure path := by
  funext e
  simp only [TextFiles.failure, display, h.layout]

theorem foundOf (h : Grows made f f') (path : TreePath) (x : Except IoError α) :
    f'.foundOf path x = f.foundOf path x := by
  unfold TextFiles.foundOf
  rw [h.failure]

theorem unpacked (h : Grows made f f') (path : TreePath) : f'.unpacked path = f.unpacked path := by
  funext found
  unfold TextFiles.unpacked
  simp only [h.failure, textOf_congr h.layout]

/-- A text is read as before. -/
theorem find (h : Grows made f f') (ht : f.disk.tree.IsTree) (hmeets : MeetsAlike f f')
    (hmade : ¬ made (f.root ++ [key.textType] ++ [key.id])) :
    AnswersAs f f' (f.root ++ [key.textType] ++ [key.id]) none (f.find key).1 (f'.find key).1 := by
  rw [find_fst, find_fst, h.entryPath]
  cases hp : f.entryPath key with
  | error e => exact .inl rfl
  | ok path =>
    obtain ⟨rfl, -⟩ := entryPath_eq_ok hp
    have hnothing : f.unpacked (f.root ++ [key.textType] ++ [key.id]) none = .ok none := rfl
    rw [ok_bind, ok_bind, h.unpacked, h.foundOf]
    refine AnswersAs.bind ?_ hnothing
    rcases hmeets.look fun t => t.read (f.root ++ [key.textType] ++ [key.id]) with
      ⟨e, hbefore, hafter⟩ | ⟨hbefore, hafter⟩ <;> rw [hbefore, hafter]
    · exact .inl rfl
    rcases h.tree.read ht hmade with hsame | ⟨hmissing, htoo, hopened, hlong⟩
    · exact .inl (by rw [hsame])
    · rw [hmissing, htoo]
      exact .inr ⟨rfl, rfl, hopened, hlong⟩

/-- Names are listed as before, or there are other names in the directory. -/
theorem names (h : Grows made f f') (ht : f.disk.tree.IsTree) (hmeets : MeetsAlike f f')
    (path : TreePath) (directories : Bool) :
    AnswersAs f f' path [] (f.names path directories).1 (f'.names path directories).1 ∨
      ((f.names path directories).1 = .ok (listed f.disk.tree path directories) ∧
        (f'.names path directories).1 = .ok (listed f'.disk.tree path directories)) := by
  rw [names_fst, names_fst, h.foundOf]
  rcases hmeets.look fun t => listing t path directories with
    ⟨e, hbefore, hafter⟩ | ⟨hbefore, hafter⟩ <;> rw [hbefore, hafter]
  · exact .inl (.inl rfl)
  unfold listing
  rcases h.tree.list ht path with ⟨e, hlist, hlist'⟩ | ⟨hlist, hlist'⟩ |
    ⟨hlist, hlist', hmissing⟩ | ⟨hlist, hlist', hopened, hlong⟩ <;> rw [hlist, hlist']
  · exact .inl (.inl rfl)
  · exact .inr ⟨rfl, rfl⟩
  · -- the directory is new, and before there was nothing in it
    rw [listed_of_missing ht hmissing]
    exact .inr ⟨rfl, rfl⟩
  · exact .inl (.inr ⟨rfl, rfl, hopened, hlong⟩)

/-- The ids of a type are listed as before. -/
theorem ids (h : Grows made f f') (ht : f.disk.tree.IsTree) (hmeets : MeetsAlike f f')
    (textType : String) :
    AnswersAs f f' (f.root ++ [textType]) [] (f.ids textType).1 (f'.ids textType).1 := by
  rw [ids_fst, ids_fst, h.typePath]
  cases hp : f.typePath textType with
  | error e => exact .inl rfl
  | ok path =>
    obtain ⟨rfl, -⟩ := typePath_eq_ok hp
    rw [ok_bind, ok_bind]
    rcases h.names ht hmeets (f.root ++ [textType]) false with hsame | ⟨hbefore, hafter⟩
    · exact hsame
    · rw [hbefore, hafter, listed_files_of_gains h.tree]
      exact .inl rfl

/-- The types are listed as before, or one that has a new directory is listed as well. -/
theorem textTypes (h : Grows made f f') (ht : f.disk.tree.IsTree) (hmeets : MeetsAlike f f')
    (hroot : f.disk.tree.Nameable f.root) {textType : String}
    (hmade : ∀ name, made (f.root ++ [name]) → name = textType ∨ name = TextName.staging) :
    f'.textTypes.1 = f.textTypes.1 ∨
      ∃ types types', f.textTypes.1 = .ok types ∧ f'.textTypes.1 = .ok types' ∧
        textType ∉ types ∧ types'.erase textType = types := by
  rw [textTypes_fst, textTypes_fst, h.root]
  rcases h.names ht hmeets f.root true with hsame | ⟨hbefore, hafter⟩
  · rw [hsame.eq_of_nameable hroot]
    exact .inl rfl
  · rw [hbefore, hafter, ok_bind, ok_bind, ← typesIn, ← typesIn]
    rcases typesIn_of_gains h.tree hmade with hsame | ⟨hnew, herase⟩
    · rw [hsame]
      exact .inl rfl
    · exact .inr ⟨_, _, rfl, rfl, hnew, herase⟩

end Grows

/-! ### Where a write makes directories -/

namespace OnTheWay

/-- No directory that a write makes is where a text could be. -/
theorem not_entry {textType textType' id : String} :
    ¬ f.OnTheWay textType (f.root ++ [textType'] ++ [id]) := by
  rintro (hfront | hfront) <;> simpa [stagingPath] using hfront.length_le

/-- Directly in the root, a write makes the directory of the type or that of staging. -/
theorem eq_or_eq {textType name : String} (h : f.OnTheWay textType (f.root ++ [name])) :
    name = textType ∨ name = TextName.staging := by
  rcases h with hfront | hfront
  · left
    simpa using hfront.eq_of_length (by simp)
  · right
    simpa [stagingPath] using hfront.eq_of_length (by simp [stagingPath])

end OnTheWay
end TextFiles

/-! ## Caches -/

open TextFiles

/-- The same cache, while other faults are to come. -/
def DiskCache.facing (c : DiskCache) (calls : Nat) (fault : Nat → Option IoError) : DiskCache :=
  { c with tier := { c.tier with disk := { c.tier.disk with calls, fault } } }

/-- A root directory that could be opened has a path that the file system accepts. -/
theorem TextFiles.nameable_of_opened {f f' : TextFiles} (h : f.opened = (.ok (), f')) :
    f'.disk.tree.Nameable f'.root := by
  obtain ⟨rfl, houtcome⟩ := call_eq h
  rcases hmade : f.disk.makeDirectories f.root with ⟨e | u, d⟩ <;> rw [hmade] at houtcome
  · cases houtcome
  · exact Disk.nameable_of_makeDirectories hmade

/-- What a failure in work on a text type has left of a cache. -/
structure DiskCache.Unharmed (textType : String) (c c' : DiskCache) : Prop where
  get : ∀ calls fault key, AnswersAs c.tier c'.tier (c.tier.root ++ [key.textType] ++ [key.id]) none
    ((c.facing calls fault).get TextFiles.tier key).1
    ((c'.facing calls fault).get TextFiles.tier key).1
  ids : ∀ calls fault listed, AnswersAs c.tier c'.tier (c.tier.root ++ [listed]) []
    ((c.facing calls fault).onTier fun f => f.ids listed).1
    ((c'.facing calls fault).onTier fun f => f.ids listed).1
  /-- the type may have got a directory; the root directory is one that could be opened -/
  textTypes : c.tier.disk.tree.Nameable c.tier.root → ∀ calls fault,
    ((c'.facing calls fault).onTier TextFiles.textTypes).1 =
        ((c.facing calls fault).onTier TextFiles.textTypes).1 ∨
      ∃ types types', ((c.facing calls fault).onTier TextFiles.textTypes).1 = .ok types ∧
        ((c'.facing calls fault).onTier TextFiles.textTypes).1 = .ok types' ∧
        textType ∉ types ∧ types'.erase textType = types
  staging : ∀ calls fault, (c'.facing calls fault).tier.StagingUnseen
  /-- no file is new, and none is another or gone -/
  files : ∀ path, c'.tier.disk.tree.file? path = c.tier.disk.tree.file? path
  texts : ∀ key, c'.tier.stored? key = c.tier.stored? key
  stats : c'.stats = c.stats

namespace DiskCache

variable {c : DiskCache}

/-- Whether a read is refused is decided by the names alone. -/
theorem get_fst (c : DiskCache) (key : TextKey) :
    (c.get TextFiles.tier key).1 = TextName.checkKey key >>= fun _ => (c.tier.find key).1 := by
  unfold TextCache.get
  cases TextName.checkKey key <;> rfl

/-- Directories on the way do no harm where all texts are left. -/
theorem unharmed_of_grows {textType : String} {f : TextFiles} (ht : c.tier.disk.tree.IsTree)
    (hgrows : Grows (c.tier.OnTheWay textType) c.tier f)
    (htexts : ∀ k, f.stored? k = c.tier.stored? k) : c.Unharmed textType { c with tier := f } := by
  -- answers are compared under the same faults, which change neither tree
  have hfacing (calls : Nat) (fault : Nat → Option IoError) :
      Grows (c.tier.OnTheWay textType) (c.facing calls fault).tier
        (facing { c with tier := f } calls fault).tier := ⟨hgrows.layout, hgrows.tree⟩
  constructor
  · intro calls fault k
    rw [get_fst, get_fst]
    cases TextName.checkKey k with
    | error e => exact .inl rfl
    | ok u => exact (hfacing calls fault).find ht rfl OnTheWay.not_entry
  · intro calls fault listed
    exact (hfacing calls fault).ids ht rfl listed
  · intro hroot calls fault
    exact (hfacing calls fault).textTypes ht rfl hroot fun name hmade => OnTheWay.eq_or_eq hmade
  · intro calls fault
    exact stagingUnseen _
  · exact hgrows.tree.file?
  · exact htexts
  · rfl

end DiskCache

/-- What a `put` that fails does to copies: it drops the one of the key, and no other. -/
structure FastCache.Dropped (key : TextKey) (c c' : FastCache) : Prop where
  gone : TextName.checkKey key = .ok () ∨ c.tier.Confined →
    c'.tier.memory.entries[key]? = none
  others : ∀ other, other ≠ key →
    c'.tier.memory.entries[other]? = c.tier.memory.entries[other]?
  coherent : c.Coherent → c'.Coherent
  stats : c'.stats = c.stats

namespace FastCache

variable {c : DiskCache} {fast : FastCache} {key : TextKey}

/-- Where names are refused at once nothing is dropped, but they have no copy to begin with. -/
theorem dropped_of_refused {e : CacheError} (hrefused : TextName.checkKey key = .error e)
    (hbad : key.Refused) (fast : FastCache) : fast.Dropped key fast where
  gone := by
    rintro (hok | hconfined)
    · rw [hrefused] at hok
      cases hok
    · exact hconfined.no_copy hbad
  others _ _ := rfl
  coherent hcoherent := hcoherent
  stats := rfl

/-- Where all texts are left, dropping the copy of the key is all that happens. -/
theorem dropped_of_invalidate {files : DiskCache}
    (htexts : ∀ k, files.tier.stored? k = fast.tier.stored? k) :
    fast.Dropped key { fast with
      tier := { fast.tier with files, memory := fast.tier.memory.invalidate key } } where
  gone _ := by rw [Memory.entries_invalidate, if_pos rfl]
  others other hne := by rw [Memory.entries_invalidate, if_neg hne.symm]
  coherent := by
    intro hcoherent k copy hcopy
    rw [Memory.entries_invalidate] at hcopy
    split at hcopy
    · cases hcopy
    · exact (htexts k).trans (hcoherent k copy hcopy)
  stats := rfl

end FastCache

/-- However a `put` fails, at any call of the disk or before, texts are read and ids and types are
listed as before, whatever faults the later calls have. There are two exceptions: the type itself
may be listed as well, and a name that is too long may be refused where nothing was found before,
when a text is read or the ids of a type are listed. The files are the same as before, no counter
has changed, and nothing in the staging directory is seen. A cache with copies fails alike, and it
has no copy of the text then. -/
theorem answers_after_failed_put {c c' : DiskCache} {key : TextKey} {text : String}
    {e : CacheError} (ht : c.tier.disk.tree.IsTree)
    (h : c.put TextFiles.tier key text = (.error e, c')) :
    c.Unharmed key.textType c' ∧
      ∀ (fast : FastCache) (free : Double), fast.tier.files = c →
        ∃ fast', fast.put (FastTier.tier free) key text = (.error e, fast') ∧
          fast'.tier.files = c' ∧ fast.Dropped key fast' := by
  unfold TextCache.put at h ⊢
  obtain ⟨hbad, message, hrefused⟩ | ⟨-, hok⟩ := TextName.judges_checkKey key
  · -- the names are refused, and nothing is done
    rw [hrefused] at h ⊢
    obtain ⟨he, rfl⟩ := Prod.mk.inj h
    rw [he]
    refine ⟨DiskCache.unharmed_of_grows ht (.refl _) fun _ => rfl, ?_⟩
    intro fast free hfiles
    exact ⟨fast, rfl, hfiles, FastCache.dropped_of_refused hrefused (hbad.imp_left .inl) fast⟩
  · rw [hok] at h ⊢
    rcases hw : c.tier.write key text with ⟨outcome, f⟩
    have hwritten : TextFiles.tier.write key text c.tier = (outcome, f) := hw
    rw [hwritten] at h
    obtain ⟨rfl, rfl⟩ := Prod.mk.inj h
    have htexts : ∀ k, f.stored? k = c.tier.stored? k := fun k =>
      (write_spec ht hw).1.texts k (by simp)
    refine ⟨DiskCache.unharmed_of_grows ht (.write hw) htexts, ?_⟩
    rintro fast free rfl
    refine ⟨{ fast with
      tier := { fast.tier with
        files := { fast.tier.files with tier := f }, memory := fast.tier.memory.invalidate key } },
      ?_, rfl, FastCache.dropped_of_invalidate htexts⟩
    simp only [FastTier.tier, FastTier.write, hw]

/-- A cache with a text, on a disk that is full by the time that the next file is written. -/
def DiskCache.full : DiskCache :=
  DiskCache.facing (FastTier.opened.files.put TextFiles.tier ⟨"a", "b"⟩ "old").2 0 fun call =>
    if call = 4 then some (.other "No space left on device (os error 28)") else none

/-- The text before stays. -/
theorem answers_after_failed_put_full :
    DiskCache.full.tier.disk.tree.IsTree ∧
      (DiskCache.full.put TextFiles.tier ⟨"a", "b"⟩ "new").1 =
        .error (.io "//a/b" (.other "No space left on device (os error 28)")) ∧
      (DiskCache.full.put TextFiles.tier ⟨"a", "b"⟩ "new").2.tier.stored? ⟨"a", "b"⟩ =
        some "old" := by
  have htree : DiskCache.full.tier.disk.tree.IsTree := by
    apply FileTree.isTree_of_nodes
    decide +kernel
  have hfailed : (DiskCache.full.put TextFiles.tier ⟨"a", "b"⟩ "new").1 =
      .error (.io "//a/b" (.other "No space left on device (os error 28)")) := by
    decide +kernel
  have hold : DiskCache.full.tier.stored? ⟨"a", "b"⟩ = some "old" := by decide +kernel
  refine ⟨htree, hfailed, ?_⟩
  rcases hput : DiskCache.full.put TextFiles.tier ⟨"a", "b"⟩ "new" with ⟨outcome, after⟩
  rw [hput] at hfailed
  obtain rfl : outcome = _ := hfailed
  exact ((answers_after_failed_put htree hput).1.texts ⟨"a", "b"⟩).trans hold

/-- A key whose id has 256 bytes, one more than a file system takes. -/
def TextKey.overlong : TextKey :=
  ⟨"a", String.ofList (List.replicate 64 '𝄞')⟩

/-- A cache whose root directory has been taken away since it was opened. -/
def DiskCache.uprooted : DiskCache where
  tier := { disk := { now := 0 }, root := ["texts"], base := "" }

/-- Where nothing was found before a `put` that fails, the name may be refused afterwards. -/
theorem not_found_before_failed_put :
    DiskCache.uprooted.tier.disk.tree.IsTree ∧
      (DiskCache.uprooted.put TextFiles.tier .overlong "text").1 =
        .error (.io ("/texts/a/" ++ TextKey.overlong.id) .nameTooLong) ∧
      (DiskCache.uprooted.get TextFiles.tier .overlong).1 = .ok none ∧
      ((DiskCache.uprooted.put TextFiles.tier .overlong "text").2.get TextFiles.tier
          .overlong).1 = .error (.io ("/texts/a/" ++ TextKey.overlong.id) .nameTooLong) ∧
      (DiskCache.uprooted.tier.ids TextKey.overlong.id).1 = .ok [] ∧
      ((DiskCache.uprooted.put TextFiles.tier .overlong "text").2.tier.ids
          TextKey.overlong.id).1 =
        .error (.io ("/texts/" ++ TextKey.overlong.id) .nameTooLong) := by
  refine ⟨FileTree.isTree_empty, ?_⟩
  decide +kernel

end CacheService
