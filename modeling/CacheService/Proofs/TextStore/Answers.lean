import CacheService.Proofs.TextStore.Shelving

/-!
# Answers of a cache of texts in files

A cache answers every request as shelves do, and has the files of what is on them afterwards
(`TextFiles.Holds.answer`). So do requests in a row, at whatever times they come
(`DiskCache.answers_eq_shelves`).
-/

namespace CacheService
namespace TextFiles

open FileTree Outcome

/-- How messages call the file of a text. -/
def nameOf (f : TextFiles) (key : TextKey) : String :=
  f.display (f.root ++ [key.textType, key.id])

/-- Files laid out as others, at the same time, for what is on the shelves. -/
structure Follows (f f' : TextFiles) (s : Shelves) : Prop where
  layout : f'.toTextLayout = f.toTextLayout
  now : f'.disk.now = f.disk.now
  basePath : f'.disk.tree.basePath = f.disk.tree.basePath
  holds : f'.Holds s

/-- A cache answers as shelves do, and has the files of what is on them then. -/
structure Agrees (f : TextFiles) (result : TextAnswer × DiskCache)
    (expected : TextAnswer × Shelves) : Prop where
  answer : result.1 = expected.1
  follows : Follows f result.2.tier expected.2

variable {c : DiskCache} {s s' : Shelves} {key : TextKey}

/-- Which names are accepted depends on the layout and on where the base is. -/
theorem Accepts.congr {f f' : TextFiles} (h : f'.toTextLayout = f.toTextLayout)
    (hbase : f'.disk.tree.basePath = f.disk.tree.basePath) {request : TextRequest}
    (haccepts : f.Accepts request) : f'.Accepts request := by
  cases request with
  | clearAll | textTypes => trivial
  | _ => simpa only [Accepts, entryPath_eq, typePath_eq, h, nameable_congr hbase] using haccepts

/-- An operation that is not counted agrees as a request if it serves. -/
theorem Serves.agrees {α : Type} {act : TextFiles → Outcome α × TextFiles} {answer : Outcome α}
    (h : Serves c.tier (act c.tier) answer s') (wrap : Outcome α → TextAnswer) :
    Agrees c.tier ((c.onTier act).map wrap id) (wrap answer, s') := by
  obtain ⟨d, hact, hnow, hbase, hholds⟩ := h
  have htier : c.onTier act = (answer, { c with tier := { c.tier with disk := d } }) := by
    simp only [TextCache.onTier, hact]
  rw [htier]
  exact ⟨rfl, rfl, hnow, hbase, hholds⟩

/-- For good names the order of the checks makes no difference. -/
theorem permitText_eq (h : TextName.checkKey key = .ok ()) :
    Shelves.permitText key = Shelves.permit key := by
  obtain ⟨u, -, hid⟩ := bind_eq_ok_iff.1 h
  simp only [Shelves.permitText, Shelves.permit, h, hid, ok_bind]

/-- What is permitted in one order is permitted in the other. -/
theorem permit_of_permitText (h : Shelves.permitText key = .ok ()) :
    Shelves.permit key = .ok () := by
  obtain ⟨u, hkey, -⟩ := bind_eq_ok_iff.1 h
  rwa [← permitText_eq hkey]

/-- If the names alone are good, only the type can be refused that has no directory. -/
theorem write_of_refused {f : TextFiles} {e : CacheError} (hkey : TextName.checkKey key = .ok ())
    (hpermit : Shelves.permit key = .error e) (text : String) :
    f.write key text = (.error e, f) := by
  obtain ⟨u, -, hid⟩ := bind_eq_ok_iff.1 hkey
  have hcheck : TextName.checkType key.textType = .error e := by
    rw [Shelves.permit, hid, ok_bind] at hpermit
    exact hpermit
  have htype : f.typePath key.textType = .error e := by
    rw [typePath_eq, hcheck]
    rfl
  simp only [write, htype]

namespace Holds

/-- A `get` answers what is read from the shelves. -/
theorem get (h : c.tier.Holds s)
    (hname : ∀ path, c.tier.entryPath key = .ok path → c.tier.disk.tree.Nameable path) :
    (c.get TextFiles.tier key).1 = s.read key ∧
      Follows c.tier (c.get TextFiles.tier key).2.tier s := by
  cases hkey : TextName.checkKey key with
  | error e =>
    have hread : s.read key = .error e := by
      simp only [Shelves.read, Shelves.permitText, hkey, error_bind]
    simp only [TextCache.get, hkey]
    exact ⟨hread.symm, rfl, rfl, rfl, h⟩
  | ok u =>
    obtain ⟨d, hfind, hnow, hbase, hholds⟩ := h.find hname
    have hread : (Shelves.permit key).map (fun _ => (s.at? key).map Shelved.text) = s.read key := by
      rw [Shelves.read, permitText_eq hkey]
      cases Shelves.permit key <;> rfl
    rw [hread] at hfind
    have htier : TextFiles.tier.find key c.tier = (s.read key, { c.tier with disk := d }) := hfind
    simp only [TextCache.get, hkey, htier]
    refine ⟨trivial, ?_⟩
    -- the read is counted or not, and the tier is the same
    cases s.read key <;> exact ⟨rfl, hnow, hbase, hholds⟩

/-- A write of files that are there already for what is on the shelves. -/
theorem write_of_follows {f : TextFiles} (h : Follows c.tier f s)
    (hpermit : Shelves.permit key = .ok ())
    (hname : ∀ path, c.tier.entryPath key = .ok path → c.tier.disk.tree.Nameable path)
    (text : String) :
    (f.write key text).1 = .ok () ∧
      Follows c.tier (f.write key text).2 (s.put key ⟨text, c.tier.disk.now⟩) := by
  simp only [← entryPath_congr h.layout, ← nameable_congr h.basePath] at hname
  obtain ⟨d, hwrite, hnow, hbase, hholds⟩ := h.holds.write hpermit hname text
  rw [hwrite, ← h.now]
  exact ⟨rfl, h.layout, hnow.trans h.now, hbase.trans h.basePath, hholds⟩

theorem put (h : c.tier.Holds s)
    (hname : ∀ path, c.tier.entryPath key = .ok path → c.tier.disk.tree.Nameable path)
    (text : String) :
    Agrees c.tier (c.answer TextFiles.service (.put key text))
      (s.answer c.tier.nameOf c.tier.disk.now (.put key text)) := by
  cases hkey : TextName.checkKey key with
  | error e =>
    have hrefused : Shelves.permitText key = .error e := by
      rw [Shelves.permitText, hkey, error_bind]
    simp only [TextCache.answer, TextCache.put, hkey, Shelves.answer, hrefused]
    exact ⟨rfl, rfl, rfl, rfl, h⟩
  | ok u =>
    have htier : TextFiles.service.write key text c.tier = c.tier.write key text := rfl
    simp only [TextCache.answer, TextCache.put, hkey, Shelves.answer, permitText_eq hkey, htier]
    cases hpermit : Shelves.permit key with
    | error e =>
      rw [write_of_refused hkey hpermit]
      exact ⟨rfl, rfl, rfl, rfl, h⟩
    | ok u =>
      obtain ⟨hwritten, hfollows⟩ :=
        write_of_follows ⟨rfl, rfl, rfl, h⟩ hpermit hname text
      exact ⟨congrArg TextAnswer.written hwritten, hfollows⟩

theorem getOrInsert (h : c.tier.Holds s)
    (hname : ∀ path, c.tier.entryPath key = .ok path → c.tier.disk.tree.Nameable path)
    (make : Outcome String) :
    Agrees c.tier (c.answer TextFiles.service (.getOrInsert key make))
      (s.answer c.tier.nameOf c.tier.disk.now (.getOrInsert key make)) := by
  obtain ⟨hread, hfollows⟩ := h.get hname
  have hanswer : c.answer TextFiles.service (.getOrInsert key make) =
      ((c.get TextFiles.tier key).2.supply TextFiles.tier key make (s.read key)).map
        .supplied id := by
    rw [← hread]
    rfl
  rw [hanswer]
  cases hfound : s.read key with
  | error e =>
    simp only [Shelves.answer, hfound]
    exact ⟨rfl, hfollows⟩
  | ok found =>
    cases found with
    | some text =>
      simp only [Shelves.answer, hfound]
      exact ⟨rfl, hfollows⟩
    | none =>
      cases make with
      | error e =>
        simp only [Shelves.answer, hfound]
        exact ⟨rfl, hfollows⟩
      | ok text =>
        -- there is no text, so one is made, and written where the read has left the files
        obtain ⟨u, hpermit, -⟩ := bind_eq_ok_iff.1 hfound
        obtain ⟨hwritten, hfollows⟩ :=
          write_of_follows hfollows (permit_of_permitText hpermit) hname text
        simp only [Shelves.answer, hfound]
        refine ⟨?_, hfollows⟩
        have htext : ((TextFiles.write (c.get TextFiles.tier key).2.tier key text).1.map
            fun _ => text) = .ok text := by
          rw [hwritten]
          rfl
        exact congrArg (fun o => TextAnswer.supplied ⟨o, true⟩) htext

/-- A cache answers any request as shelves do. -/
theorem answer (h : c.tier.Holds s) {request : TextRequest} (haccepts : c.tier.Accepts request) :
    Agrees c.tier (c.answer TextFiles.service request)
      (s.answer c.tier.nameOf c.tier.disk.now request) := by
  cases request with
  | get key =>
    obtain ⟨hread, hfollows⟩ := h.get haccepts
    exact ⟨congrArg TextAnswer.found hread, hfollows⟩
  | getLines key =>
    obtain ⟨hread, hfollows⟩ := h.get haccepts
    exact ⟨congrArg (fun o => TextAnswer.lines (TextCache.linesOf o)) hread, hfollows⟩
  | getOrInsert key make => exact h.getOrInsert haccepts make
  | put key text => exact h.put haccepts text
  | remove key =>
    cases hpermit : Shelves.permit key with
    | error e =>
      have hrefused : Serves c.tier (c.tier.remove key) (.error e) s := by
        simp only [TextFiles.remove, entryPath_of_refused hpermit]
        exact h.refused e
      simp only [Shelves.answer, hpermit]
      exact hrefused.agrees .removed
    | ok u =>
      simp only [Shelves.answer, hpermit]
      exact (h.remove hpermit haccepts).agrees .removed
  | clear textType =>
    cases hcheck : TextName.checkType textType with
    | error e =>
      have hrefused : Serves c.tier (c.tier.clear textType) (.error e) s := by
        simp only [TextFiles.clear, typePath_eq, hcheck]
        exact h.refused e
      simp only [Shelves.answer, hcheck]
      exact hrefused.agrees .cleared
    | ok u =>
      have hname := haccepts _ (by rw [typePath_eq, hcheck]; rfl)
      simp only [Shelves.answer, hcheck]
      exact (h.clear hcheck hname).agrees .cleared
  | clearAll => exact h.clearAll.agrees .cleared
  | ids textType => exact (h.ids haccepts).agrees .named
  | textTypes => exact h.textTypes.agrees .named
  | age key => exact (h.age haccepts).agrees .aged
  | modified key => exact (h.modified haccepts).agrees .dated

end Holds

end TextFiles

/-! ## Requests in a row -/

namespace DiskCache

open TextFiles

def step (request : Instant × TextRequest) (c : DiskCache) : TextAnswer × DiskCache :=
  TextCache.answer TextFiles.service request.2
    { c with tier := { c.tier with disk := { c.tier.disk with now := request.1 } } }

/-- A request at its time is answered as by the shelves, and the files are those of what is on them
then. -/
theorem agrees_step {c : DiskCache} {s : Shelves} (h : c.tier.Holds s)
    {request : Instant × TextRequest} (haccepts : c.tier.Accepts request.2) :
    (c.step request).1 = (s.step c.tier.nameOf request).1 ∧
      (c.step request).2.tier.toTextLayout = c.tier.toTextLayout ∧
      (c.step request).2.tier.disk.tree.basePath = c.tier.disk.tree.basePath ∧
      (c.step request).2.tier.Holds (s.step c.tier.nameOf request).2 := by
  have hnow := h.of_tree_eq (d := { c.tier.disk with now := request.1 }) rfl rfl
  obtain ⟨hanswer, hlayout, -, hbase, hholds⟩ := Holds.answer
    (c := { c with tier := { c.tier with disk := { c.tier.disk with now := request.1 } } })
    hnow haccepts
  exact ⟨hanswer, hlayout, hbase, hholds⟩

/-- On a disk that does what it is asked to, a cache of texts in files answers all requests as
shelves do, and has the files of what is on them in the end. Types that no request touches are as
they were. -/
theorem answers_eq_shelves {c : DiskCache} {s : Shelves} (h : c.tier.Holds s)
    (requests : List (Instant × TextRequest))
    (haccepts : ∀ request ∈ requests, c.tier.Accepts request.2) :
    (answersOf step requests c).1 = (answersOf (Shelves.step c.tier.nameOf) requests s).1 ∧
      (answersOf step requests c).2.tier.Holds
        (answersOf (Shelves.step c.tier.nameOf) requests s).2 ∧
      ∀ t, (∀ request ∈ requests, ¬ request.2.Touches t) →
        (answersOf (Shelves.step c.tier.nameOf) requests s).2[t]? = s[t]? := by
  refine and_assoc.1 ⟨?_, fun t h => Shelves.getElem?_answersOf_of_untouched h _⟩
  induction requests generalizing c s with
  | nil => exact ⟨rfl, h⟩
  | cons request rest ih =>
    obtain ⟨hanswer, hlayout, hbase, hholds⟩ := agrees_step h (haccepts request List.mem_cons_self)
    have hrest : ∀ other ∈ rest, (c.step request).2.tier.Accepts other.2 := by
      intro other hmem
      exact (haccepts other (List.mem_cons_of_mem _ hmem)).congr hlayout hbase
    have hname : (c.step request).2.tier.nameOf = c.tier.nameOf := by
      funext key
      simp only [nameOf, display, hlayout]
    obtain ⟨hanswers, hlast⟩ := ih hholds hrest
    rw [hname] at hanswers hlast
    refine ⟨?_, hlast⟩
    simp only [answersOf]
    rw [hanswer, hanswers]

def opened : DiskCache where
  tier := { disk := { now := 0 }, root := [], base := "/" }

theorem holds_opened : opened.tier.Holds ∅ where
  reliable := fun _ => rfl
  isTree := FileTree.isTree_empty
  root := rfl
  types := by
    intro t _
    rfl
  texts := by
    intro key _
    rfl
  staging := .inl rfl
  staged := fun _ => rfl
  permitted := by simp
  typeNames := by simp
  textNames := by
    intro key hkey
    simp [Shelves.at?, Shelves.shelf] at hkey
  stagedNames := by
    intro name hplain
    apply nameable_concat_of_plain _ _ hplain
    · unfold FileTree.Nameable
      decide +kernel
    · decide +kernel

/-- Two texts of a type are put, one is read and removed, and the type is cleared. -/
def putRemoveClear : List (Instant × TextRequest) :=
  [(1, .put ⟨"a", "b"⟩ "text"), (2, .put ⟨"a", "c"⟩ ""), (3, .get ⟨"a", "b"⟩),
    (4, .remove ⟨"a", "b"⟩), (5, .ids "a"), (6, .age ⟨"a", "c"⟩), (7, .clear "a"), (8, .textTypes)]

/-- The texts are found, removed, named and cleared as on shelves. -/
theorem answers_eq_shelves_put_remove_clear :
    opened.tier.Holds ∅ ∧ (∀ request ∈ putRemoveClear, opened.tier.Accepts request.2) ∧
      (answersOf step putRemoveClear opened).1 =
        [.written (.ok ()), .written (.ok ()), .found (.ok (some "text")), .removed (.ok true),
          .named (.ok ["c"]), .aged (.ok (some 4)), .cleared (.ok 1), .named (.ok [])] := by
  have hentry : ∀ id, id = "b" ∨ id = "c" → ∀ path, opened.tier.entryPath ⟨"a", id⟩ = .ok path →
      opened.tier.disk.tree.Nameable path := by
    rintro id hid path hpath
    rw [(entryPath_eq_ok hpath).1]
    unfold FileTree.Nameable
    rcases hid with rfl | rfl <;> decide +kernel
  have htype : ∀ path, opened.tier.typePath "a" = .ok path →
      opened.tier.disk.tree.Nameable path := by
    intro path hpath
    rw [(typePath_eq_ok hpath).1]
    unfold FileTree.Nameable
    decide +kernel
  have hb := hentry "b" (.inl rfl)
  have hc := hentry "c" (.inr rfl)
  have haccepts : ∀ request ∈ putRemoveClear, opened.tier.Accepts request.2 := by
    simp only [putRemoveClear, List.forall_mem_cons]
    exact ⟨hb, hc, hb, hb, htype, hc, htype, trivial, by simp⟩
  refine ⟨holds_opened, haccepts, ?_⟩
  rw [(answers_eq_shelves holds_opened putRemoveClear haccepts).1]
  rfl

end DiskCache
end CacheService
