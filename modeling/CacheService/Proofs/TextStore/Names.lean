import CacheService.Proofs.Outcome
import CacheService.Proofs.TextStore.Callers

/-!
# Names that are refused

Every operation on a text checks the names first: if one is bad, it fails for that reason and has
done nothing, and else it does not fail for that reason. `Guarded` says so of a cache that has
answered a request.
-/

namespace CacheService

open Outcome

/-! ## Bad names -/

namespace TextName

/-- A name that is no single part of a path. -/
def Bad (value : String) : Prop :=
  value = "" ∨ value = "." ∨ value = ".." ∨ '/' ∈ value.toList ∨ '\\' ∈ value.toList

def BadType (textType : String) : Prop :=
  Bad textType ∨ textType = staging

instance (value : String) : Decidable (Bad value) :=
  inferInstanceAs (Decidable (_ ∨ _ ∨ _ ∨ _ ∨ _))

instance (textType : String) : Decidable (BadType textType) :=
  inferInstanceAs (Decidable (_ ∨ _))

end TextName

open TextName

def TextKey.Refused (key : TextKey) : Prop :=
  BadType key.textType ∨ Bad key.id

instance (key : TextKey) : Decidable key.Refused :=
  inferInstanceAs (Decidable (_ ∨ _))

/-- The outcome that names are refused. -/
def Invalid {α : Type} (outcome : Outcome α) : Prop :=
  ∃ message, outcome = .error (.invalidTextType message)

theorem not_invalid_ok {α : Type} (a : α) : ¬ Invalid (.ok a) :=
  nofun

/-- A failure is passed on as it is. -/
theorem invalid_error {α β : Type} {e : CacheError} (h : Invalid (.error e : Outcome α)) :
    Invalid (.error e : Outcome β) := by
  obtain ⟨message, he⟩ := h
  exact ⟨message, congrArg Except.error (Except.error.inj he)⟩

theorem invalid_map {α β : Type} (f : α → β) (outcome : Outcome α) :
    Invalid (outcome.map f) ↔ Invalid outcome := by
  cases outcome <;> simp [Invalid, Except.map]

/-- The outcome of work on the disk, which does not fail but for its files. -/
def OnDisk {α : Type} (outcome : Outcome α) : Prop :=
  ∀ e, outcome = .error e → ∃ path source, e = .io path source

namespace OnDisk

variable {α β σ : Type}

theorem not_invalid {outcome : Outcome α} (h : OnDisk outcome) : ¬ Invalid outcome := by
  rintro ⟨message, he⟩
  obtain ⟨path, source, hio⟩ := h _ he
  cases hio

theorem ok (a : α) : OnDisk (.ok a) :=
  nofun

/-- A failure is passed on as it is. -/
theorem error {e : CacheError} (h : OnDisk (.error e : Outcome α)) :
    OnDisk (.error e : Outcome β) :=
  fun e' he => h e' (congrArg Except.error (Except.error.inj he))

/-- Work that fails with what other work has failed with. -/
theorem of_error {x : Outcome α × σ} {e : CacheError} {t : σ} (hx : OnDisk x.1)
    (h : x = (.error e, t)) : OnDisk (.error e : Outcome β) := by
  subst h
  exact hx.error

theorem map {outcome : Outcome α} (h : OnDisk outcome) (f : α → β) : OnDisk (outcome.map f) := by
  cases outcome with
  | error e => exact h.error
  | ok a => exact ok _

end OnDisk

/-- The outcome that some names are refused if they are bad, or else a value. -/
def Judges {α : Type} (bad : Prop) (outcome : Outcome α) (a : α) : Prop :=
  (bad ∧ Invalid outcome) ∨ (¬ bad ∧ outcome = .ok a)

section Judging

variable {α β : Type} {bad bad' : Prop} {outcome : Outcome α} {a : α}

theorem Judges.congr (h : Judges bad outcome a) (hbad : bad ↔ bad') : Judges bad' outcome a := by
  rwa [Judges, ← hbad]

/-- Of two checks in a row, one refuses just if a name is bad for the one or the other. -/
theorem Judges.bind (h : Judges bad outcome a) {f : α → Outcome β} {b : β}
    (h' : Judges bad' (f a) b) : Judges (bad ∨ bad') (outcome >>= f) b := by
  rcases h with ⟨hbad, message, rfl⟩ | ⟨hgood, rfl⟩
  · exact .inl ⟨.inl hbad, message, rfl⟩
  · rcases h' with ⟨hbad', hinvalid⟩ | ⟨hgood', hb⟩
    · exact .inl ⟨.inr hbad', hinvalid⟩
    · exact .inr ⟨not_or.2 ⟨hgood, hgood'⟩, hb⟩

theorem Judges.value (h : Judges bad outcome a) (f : α → β) :
    Judges bad (do return f (← outcome)) (f a) := by
  rcases h with ⟨hbad, message, rfl⟩ | ⟨hgood, rfl⟩
  · exact .inl ⟨hbad, message, rfl⟩
  · exact .inr ⟨hgood, rfl⟩

end Judging

namespace TextName

/-- A fault is found just in bad names. -/
theorem fault?_eq_none_iff (value : String) : fault? value = none ↔ ¬ Bad value := by
  unfold fault? Bad
  by_cases hempty : value = ""
  · simp [hempty]
  by_cases hdots : value = "." ∨ value = ".."
  · rcases hdots with rfl | rfl <;> decide
  · have hany : (value.toList.any fun c => c = '/' || c = '\\') = true ↔
        '/' ∈ value.toList ∨ '\\' ∈ value.toList := by
      simp [List.any_eq_true, and_or_left, exists_or]
    rw [if_neg (by simpa using hempty), if_neg (by simpa using hdots)]
    rw [not_or] at hdots
    simp [hempty, hdots, hany]

/-- A check refuses a name just if it is bad. -/
theorem judges_check (kind value : String) : Judges (Bad value) (check kind value) () := by
  unfold check
  cases hf : fault? value with
  | none => exact .inr ⟨(fault?_eq_none_iff value).1 hf, rfl⟩
  | some fault =>
    -- a good name has no fault
    refine .inl ⟨?_, _, rfl⟩
    by_contra hgood
    rw [(fault?_eq_none_iff value).2 hgood] at hf
    cases hf

theorem judges_checkKey (key : TextKey) :
    Judges (Bad key.textType ∨ Bad key.id) (checkKey key) () :=
  (judges_check "text type" key.textType).bind (judges_check "id" key.id)

theorem judges_checkType (textType : String) :
    Judges (BadType textType) (checkType textType) () := by
  refine (judges_check "text type" textType).bind ?_
  by_cases hstaging : textType = staging
  · rw [if_pos hstaging]
    exact .inl ⟨hstaging, _, rfl⟩
  · rw [if_neg hstaging]
    exact .inr ⟨hstaging, rfl⟩

end TextName

/-! ## Texts in files -/

namespace TextFiles

theorem judges_typePath (f : TextFiles) (textType : String) :
    Judges (BadType textType) (f.typePath textType) (f.root ++ [textType]) :=
  (judges_checkType textType).value fun _ => f.root ++ [textType]

/-- A text has a path just if its names are not bad. -/
theorem judges_entryPath (f : TextFiles) (key : TextKey) :
    Judges key.Refused (f.entryPath key) (f.root ++ [key.textType] ++ [key.id]) := by
  have htype := (f.judges_typePath key.textType).value fun path => path ++ [key.id]
  exact ((judges_check "id" key.id).bind htype).congr or_comm

/-- An operation is refused without any effect if some names are bad, and else it does not fail for
that reason. -/
structure Guards {α : Type} (bad : Prop) (act : TextFiles → Outcome α × TextFiles) : Prop where
  refuses : bad → ∀ f, Invalid (act f).1 ∧ (act f).2 = f
  accepts : ¬ bad → ∀ f, ¬ Invalid (act f).1

variable {α : Type}

/-- The failures of calls are about files. -/
theorem onDisk_mapError (f : TextFiles) (path : TreePath) (outcome : Except IoError α) :
    OnDisk (outcome.mapError (f.failure path)) := by
  cases outcome with
  | error e =>
    rintro e' he
    exact ⟨_, _, (Except.error.inj he).symm⟩
  | ok a => exact .ok a

theorem onDisk_call (f : TextFiles) (path : TreePath) (act : Disk → Except IoError α × Disk) :
    OnDisk (f.call path act).1 :=
  onDisk_mapError f path _

theorem onDisk_callFound (f : TextFiles) (path : TreePath)
    (act : Disk → Except IoError α × Disk) : OnDisk (f.callFound path act).1 :=
  onDisk_call f path _

section Paths

variable {bad : Prop} {f : TextFiles} {path? : Outcome TreePath} {path : TreePath}
  {act : Outcome α × TextFiles} {rest : TreePath → Outcome α × TextFiles}

/-- An operation that makes a path first and is refused one. -/
theorem refuses_of_path
    (hact : act = match path? with
      | .error e => (.error e, f)
      | .ok path => rest path)
    (hpath : Judges bad path? path) (hbad : bad) : Invalid act.1 ∧ act.2 = f := by
  obtain ⟨-, message, herror⟩ | ⟨hgood, -⟩ := hpath
  · rw [hact, herror]
    exact ⟨⟨message, rfl⟩, rfl⟩
  · exact absurd hbad hgood

/-- An operation that makes a path first and then works on the disk. -/
theorem onDisk_of_path
    (hact : act = match path? with
      | .error e => (.error e, f)
      | .ok path => rest path)
    (hpath : Judges bad path? path) (hrest : ∀ path, OnDisk (rest path).1) (hgood : ¬ bad) :
    OnDisk act.1 := by
  obtain ⟨hbad, -⟩ | ⟨-, hok⟩ := hpath
  · exact absurd hbad hgood
  · rw [hact, hok]
    exact hrest _

end Paths

/-- An operation that begins with the path it works on is refused just if the path is. -/
theorem Guards.of_path {bad : Prop} {path? : TextFiles → Outcome TreePath}
    {path : TextFiles → TreePath} (hpath : ∀ f, Judges bad (path? f) (path f))
    {act : TextFiles → Outcome α × TextFiles} {rest : TreePath → TextFiles → Outcome α × TextFiles}
    (hact : ∀ f, act f = match path? f with
      | .error e => (.error e, f)
      | .ok path => rest path f)
    (hrest : ∀ path f, OnDisk (rest path f).1) : Guards bad act where
  refuses hbad f := refuses_of_path (hact f) (hpath f) hbad
  accepts hgood f :=
    (onDisk_of_path (hact f) (hpath f) (fun path => hrest path f) hgood).not_invalid

theorem guards_find (key : TextKey) : Guards key.Refused fun f => f.find key :=
  .of_path (fun f => f.judges_entryPath key) (fun _ => rfl) fun path f => by
    have hcall := onDisk_callFound f path fun d => d.look fun t => t.read path
    split
    · next h => exact hcall.of_error h
    · exact .ok _
    · exact onDisk_mapError _ _ _

theorem guards_modified (key : TextKey) : Guards key.Refused fun f => f.modified key :=
  .of_path (fun f => f.judges_entryPath key) (fun _ => rfl) fun path f =>
    onDisk_callFound f path _

theorem guards_age (key : TextKey) : Guards key.Refused fun f => f.age key where
  refuses hbad f := by
    obtain ⟨⟨message, hmessage⟩, hf⟩ := (guards_modified key).refuses hbad f
    rcases hm : f.modified key with ⟨outcome, f'⟩
    rw [hm] at hmessage hf
    subst hmessage hf
    rw [age, hm]
    exact ⟨⟨message, rfl⟩, rfl⟩
  accepts hgood f := by
    have hmodified := (guards_modified key).accepts hgood f
    unfold age
    rcases hm : f.modified key with ⟨e | _ | time, f'⟩ <;> rw [hm] at hmodified
    · exact fun hinvalid => hmodified (invalid_error hinvalid)
    · exact not_invalid_ok _
    · -- a time to come is refused, but not the names
      dsimp only
      split
      · exact not_invalid_ok _
      · rintro ⟨message, h⟩
        cases h

theorem guards_remove (key : TextKey) : Guards key.Refused fun f => f.remove key :=
  .of_path (fun f => f.judges_entryPath key) (fun _ => rfl) fun path f =>
    (onDisk_callFound f path _).map _

theorem onDisk_names (f : TextFiles) (path : TreePath) (directories : Bool) :
    OnDisk (f.names path directories).1 := by
  unfold names
  exact (onDisk_callFound f path _).map _

theorem guards_ids (textType : String) : Guards (BadType textType) fun f => f.ids textType :=
  .of_path (fun f => f.judges_typePath textType) (fun _ => rfl) fun path f =>
    onDisk_names f path false

theorem guards_textTypes : Guards False textTypes where
  refuses := False.elim
  accepts _ f := by
    unfold textTypes
    exact ((onDisk_names f f.root true).map _).not_invalid

theorem onDisk_removeEach (f : TextFiles) (directory : TreePath) (all : List String) :
    OnDisk (f.removeEach directory all).1 := by
  induction all generalizing f with
  | nil => exact .ok ()
  | cons name rest ih =>
    have hcall := onDisk_call f (directory ++ [name])
      fun d => d.change (FileTree.removeFile d.now (directory ++ [name]))
    simp only [removeEach]
    split
    · next h => exact hcall.of_error h
    · exact ih _

/-- A clearing that is not refused does not fail but for the files. -/
theorem onDisk_clear {textType : String} (hgood : ¬ BadType textType) (f : TextFiles) :
    OnDisk (f.clear textType).1 := by
  refine onDisk_of_path rfl (f.judges_typePath textType) (fun path => ?_) hgood
  have hnames := onDisk_names f path false
  split
  · next h => exact hnames.of_error h
  · next ids f' _ =>
    have heach := onDisk_removeEach f' path ids
    split
    · next h => exact heach.of_error h
    · exact (onDisk_callFound _ path _).map _

theorem guards_clear (textType : String) : Guards (BadType textType) fun f => f.clear textType where
  refuses hbad f := refuses_of_path rfl (f.judges_typePath textType) hbad
  accepts hgood f := (onDisk_clear hgood f).not_invalid

/-- Writing looks at the type alone before it makes directories. -/
theorem write_refuses {key : TextKey} (hbad : BadType key.textType) (text : String)
    (f : TextFiles) : Invalid (f.write key text).1 ∧ (f.write key text).2 = f :=
  refuses_of_path rfl (f.judges_typePath key.textType) hbad

theorem onDisk_write {key : TextKey} (hgood : ¬ key.Refused) (text : String) (f : TextFiles) :
    OnDisk (f.write key text).1 := by
  obtain ⟨htype, -⟩ := not_or.1 hgood
  refine onDisk_of_path rfl (f.judges_typePath key.textType) (fun directory => ?_) htype
  -- directories are made before the id is looked at, which is good
  have hcall := onDisk_call f directory fun d => d.makeDirectories directory
  split
  · next h => exact hcall.of_error h
  next f' _ =>
  have hcall := onDisk_call f' f'.stagingPath fun d => d.makeDirectories f'.stagingPath
  split
  · next h => exact hcall.of_error h
  next f'' _ =>
  exact onDisk_of_path rfl (f''.judges_entryPath key) (fun path => onDisk_call f'' path _) hgood

theorem write_accepts {key : TextKey} (hgood : ¬ key.Refused) (text : String) (f : TextFiles) :
    ¬ Invalid (f.write key text).1 :=
  (onDisk_write hgood text f).not_invalid

end TextFiles

/-! ## Requests -/

/-- A request whose names are bad. -/
def TextRequest.Refused : TextRequest → Prop
  | .get key | .getLines key | .getOrInsert key _ | .put key _ => key.Refused
  | .remove key | .age key | .modified key => key.Refused
  | .clear textType | .ids textType => BadType textType
  | .clearAll | .textTypes => False

/-- A request with a maker that fails as if names were refused. -/
def TextRequest.MakesInvalid : TextRequest → Prop
  | .getOrInsert _ make => Invalid make
  | _ => False

namespace TextAnswer

/-- The answer that names are refused. -/
def Invalid : TextAnswer → Prop
  | .found outcome => CacheService.Invalid outcome
  | .lines outcome => CacheService.Invalid outcome
  | .supplied text => CacheService.Invalid text.outcome
  | .written outcome => CacheService.Invalid outcome
  | .removed outcome => CacheService.Invalid outcome
  | .cleared outcome => CacheService.Invalid outcome
  | .named outcome => CacheService.Invalid outcome
  | .aged outcome => CacheService.Invalid outcome
  | .dated outcome => CacheService.Invalid outcome

/-- Whether a text was made for the answer. -/
def made : TextAnswer → Bool
  | .supplied text => text.made
  | _ => false

end TextAnswer

variable {σ : Type}

/-- A cache has answered that names are refused exactly if they are bad, or if it has run a maker
that fails so. For bad names it has run no maker, it has counted nothing, and its tier is the same
in some sense. -/
structure Guarded (same : σ → σ → Prop) (request : TextRequest) (c : TextCache σ)
    (result : TextAnswer × TextCache σ) : Prop where
  invalid : result.1.Invalid ↔ request.Refused ∨ (result.1.made = true ∧ request.MakesInvalid)
  unmade : request.Refused → result.1.made = false
  tier : request.Refused → same result.2.tier c.tier
  stats : request.Refused → result.2.stats = c.stats

/-- A tier that refuses bad names while it has some property. -/
structure TextService.Guards (s : TextService σ) (kept : σ → Prop) (same : σ → σ → Prop) :
    Prop where
  refl : ∀ t, same t t
  find_refuses : ∀ key t, kept t → key.Refused → Invalid (s.find key t).1 ∧ same (s.find key t).2 t
  find_accepts : ∀ key t, ¬ key.Refused → ¬ Invalid (s.find key t).1
  write_refuses : ∀ key text t, kept t → BadType key.textType →
    Invalid (s.write key text t).1 ∧ same (s.write key text t).2 t
  write_accepts : ∀ key text t, ¬ key.Refused → ¬ Invalid (s.write key text t).1
  work_refuses : ∀ w t, kept t → w.request.Refused →
    (s.work w t).1.Invalid ∧ same (s.work w t).2 t
  work_accepts : ∀ w t, w ≠ .clearAll → ¬ w.request.Refused → ¬ (s.work w t).1.Invalid

namespace TextService.Guards

variable {s : TextService σ} {kept : σ → Prop} {same : σ → σ → Prop} {c : TextCache σ}
  {key : TextKey}

/-- A read under bad names is refused, and counts nothing. -/
theorem get_refuses (h : s.Guards kept same) (hc : kept c.tier) (hbad : key.Refused) :
    Invalid (c.get s.toTextTier key).1 ∧ same (c.get s.toTextTier key).2.tier c.tier ∧
      (c.get s.toTextTier key).2.stats = c.stats := by
  unfold TextCache.get
  obtain ⟨-, message, hrefused⟩ | ⟨-, hok⟩ := judges_checkKey key
  · rw [hrefused]
    exact ⟨⟨message, rfl⟩, h.refl _, rfl⟩
  · -- only the reserved type is left, which is refused by the tier
    obtain ⟨⟨message, hfailed⟩, hsame⟩ := h.find_refuses key c.tier hc hbad
    rw [hok]
    rcases hf : s.find key c.tier with ⟨outcome, tier⟩
    rw [hf] at hfailed hsame
    subst hfailed
    exact ⟨⟨message, rfl⟩, hsame, rfl⟩

theorem get_accepts (h : s.Guards kept same) (hgood : ¬ key.Refused) :
    ¬ Invalid (c.get s.toTextTier key).1 := by
  unfold TextCache.get
  obtain ⟨hbad, -⟩ | ⟨-, hok⟩ := judges_checkKey key
  · exact absurd (hbad.imp_left .inl) hgood
  · rw [hok]
    exact h.find_accepts key c.tier hgood

/-- A request that makes nothing, from what is refused and what is not. -/
theorem guarded_of_unmade {request : TextRequest} {result : TextAnswer × TextCache σ}
    (hmade : result.1.made = false)
    (hrefuses : request.Refused →
      result.1.Invalid ∧ same result.2.tier c.tier ∧ result.2.stats = c.stats)
    (haccepts : ¬ request.Refused → ¬ result.1.Invalid) : Guarded same request c result where
  invalid := by
    rw [hmade]
    simp only [Bool.false_eq_true, false_and, or_false]
    exact ⟨fun hinvalid => by_contra fun hgood => haccepts hgood hinvalid,
      fun hbad => (hrefuses hbad).1⟩
  unmade _ := hmade
  tier hbad := (hrefuses hbad).2.1
  stats hbad := (hrefuses hbad).2.2

/-- A request with good names, which fails for names only if its maker does. -/
theorem guarded_of_good {request : TextRequest} {result : TextAnswer × TextCache σ}
    (hgood : ¬ request.Refused)
    (hinvalid : result.1.Invalid ↔ result.1.made = true ∧ request.MakesInvalid) :
    Guarded same request c result where
  invalid := by rw [hinvalid, or_iff_right hgood]
  unmade hbad := absurd hbad hgood
  tier hbad := absurd hbad hgood
  stats hbad := absurd hbad hgood

/-- Work other than finding and writing is refused as the tier refuses it. -/
theorem answer_work (h : s.Guards kept same) (hc : kept c.tier) {work : TextWork}
    (hwork : work ≠ .clearAll) : Guarded same work.request c (c.answer s work.request) := by
  rw [TextService.answer_work]
  refine guarded_of_unmade ?_ (fun hbad => ?_) fun hgood => h.work_accepts work c.tier hwork hgood
  · cases work <;> rfl
  · obtain ⟨hinvalid, hsame⟩ := h.work_refuses work c.tier hc hbad
    exact ⟨hinvalid, hsame, rfl⟩

/-- Under bad names no maker is run. -/
theorem answer_getOrInsert (h : s.Guards kept same) (hc : kept c.tier) (make : Outcome String) :
    Guarded same (.getOrInsert key make) c (c.answer s (.getOrInsert key make)) := by
  simp only [TextCache.answer, TextCache.getOrInsert]
  by_cases hbad : key.Refused
  · obtain ⟨⟨message, hfailed⟩, hunchanged⟩ := h.get_refuses hc hbad
    rcases hget : c.get s.toTextTier key with ⟨outcome, c'⟩
    rw [hget] at hfailed hunchanged
    subst hfailed
    exact guarded_of_unmade rfl (fun _ => ⟨⟨message, rfl⟩, hunchanged⟩) fun hgood =>
      absurd hbad hgood
  · have haccepted : ¬ Invalid (c.get s.toTextTier key).1 := h.get_accepts hbad
    rcases hget : c.get s.toTextTier key with ⟨e | _ | text, c'⟩ <;> rw [hget] at haccepted
    · exact guarded_of_unmade rfl (fun hrefused => absurd hrefused hbad)
        fun _ hinvalid => haccepted (invalid_error hinvalid)
    · -- from here on a failure is that of the maker, or of writing what it has made
      simp only [TextCache.supply]
      cases make with
      | error e => exact guarded_of_good hbad ⟨fun hinvalid => ⟨rfl, hinvalid⟩, And.right⟩
      | ok text =>
        refine guarded_of_good hbad ⟨fun hinvalid => ?_, fun hmade => ?_⟩
        · exact absurd ((invalid_map _ _).1 hinvalid) (h.write_accepts key text c'.tier hbad)
        · exact absurd hmade.2 (not_invalid_ok text)
    · exact guarded_of_unmade rfl (fun hrefused => absurd hrefused hbad)
        fun _ => not_invalid_ok text

theorem answer_put (h : s.Guards kept same) (hc : kept c.tier) (text : String) :
    Guarded same (.put key text) c (c.answer s (.put key text)) := by
  simp only [TextCache.answer, TextCache.put]
  obtain ⟨hbad, message, hrefused⟩ | ⟨hnames, hok⟩ := judges_checkKey key
  · rw [hrefused]
    exact guarded_of_unmade rfl (fun _ => ⟨⟨message, rfl⟩, h.refl _, rfl⟩)
      fun hgood => absurd (hbad.imp_left .inl) hgood
  · rw [hok]
    refine guarded_of_unmade rfl (fun hbad => ?_) fun hgood => ?_
    · -- both names are good by themselves, so the type is the reserved one
      have htype : BadType key.textType := hbad.resolve_right fun hid => hnames (.inr hid)
      obtain ⟨hinvalid, hsame⟩ := h.write_refuses key text c.tier hc htype
      exact ⟨hinvalid, hsame, rfl⟩
    · exact h.write_accepts key text c.tier hgood

/-- All requests are guarded, but for the clearing of all types, which has no names. -/
theorem answer (h : s.Guards kept same) (hc : kept c.tier) {request : TextRequest}
    (hrequest : request ≠ .clearAll) : Guarded same request c (c.answer s request) := by
  rcases request.kinds with ⟨⟨key, purpose⟩, rfl⟩ | ⟨key, text, rfl⟩ | ⟨work, rfl⟩
  · cases purpose with
    | text =>
      exact guarded_of_unmade rfl (fun hbad => h.get_refuses hc hbad)
        fun hgood => h.get_accepts hgood
    | lines =>
      refine guarded_of_unmade rfl (fun hbad => ?_) fun hgood => ?_
      · obtain ⟨hinvalid, hsame⟩ := h.get_refuses hc hbad
        exact ⟨(invalid_map _ _).2 hinvalid, hsame⟩
      · exact fun hinvalid => h.get_accepts hgood ((invalid_map _ _).1 hinvalid)
    | supply make => exact h.answer_getOrInsert hc make
  · exact h.answer_put hc text
  · refine h.answer_work hc ?_
    rintro rfl
    exact hrequest rfl

end TextService.Guards
end CacheService
