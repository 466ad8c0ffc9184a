import CacheService.Proofs.TextStore.Files
import CacheService.Proofs.TextStore.Interleaving
import CacheService.Proofs.TextStore.Memory
import CacheService.Proofs.TextStore.Names
import CacheService.Proofs.TextStore.Shelving

/-!
# Copies in memory against texts on the disk

However operations run side by side, a copy in memory is the text on the disk, unless some
operation has changed the disk and is still about to drop the copy. A reader that is late does no
harm, because its stamp is no longer good by the time it could keep an old text.

`Faithful` says what one step of any operation does to both tiers. `Coherent` is what every move
preserves.
-/

namespace CacheService

/-- There are no texts with bad names. -/
theorem TextFiles.stored?_of_refused {key : TextKey} (hbad : key.Refused) (f : TextFiles) :
    f.stored? key = none := by
  obtain ⟨-, message, hrefused⟩ | ⟨hgood, -⟩ := f.judges_entryPath key
  · simp [stored?, hrefused]
  · exact absurd hbad hgood

namespace FastTier

open Memory (Stamp)

/-! ## Texts on the disk -/

/-- The text that the disk holds under a key. -/
def stored? (t : FastTier) (key : TextKey) : Option String :=
  t.files.tier.stored? key

/-- A disk with a tree on it that tells the truth about what is missing. -/
structure Sound (t : FastTier) : Prop where
  isTree : t.files.tier.disk.tree.IsTree
  honest : t.files.tier.disk.Honest

/-- What an operation makes of the text that the disk holds under a key, if its work on the disk
does not fail. No text is put under a bad name. -/
def Operation.effect (key : TextKey) (before : Option String) : Operation → Option String
  | .get _ => before
  | .put k text => if k = key ∧ ¬ k.Refused then some text else before
  | .remove k => if k = key then none else before
  | .clear textType => if key.textType = textType then none else before
  | .clearAll => none

def replay (key : TextKey) (before : Option String) (operations : List Operation) :
    Option String :=
  operations.foldl (Operation.effect key) before

/-! ## Work on the disk that fails -/

/-- Some names that the operation was called with are bad. -/
def Operation.Refused : Operation → Prop
  | .get key | .put key _ | .remove key => key.Refused
  | .clear textType => TextName.BadType textType
  | .clearAll => False

/-- An operation with bad names is about to work on the disk. -/
def Stage.Refused : Stage → Prop
  | .beginning operation => operation.Refused
  | .reading key _ => key.Refused
  | _ => False

/-- The operation fails in its next step, though its names are good. -/
def Stage.Fails (free : Double) (t : FastTier) (stage : Stage) : Prop :=
  stage.failed = false ∧ (step free stage t).1.failed = true ∧ ¬ stage.Refused

/-- A move is no step in which an operation fails. -/
def Crowd.Well (c : Crowd) : Move → Prop
  | .advance number free => ∀ stage ∈ c.stages[number]?, ¬ stage.Fails free c.tier
  | _ => True

/-- In none of the moves an operation fails, but names may be refused. -/
def Crowd.AllWell (c : Crowd) : List Move → Prop
  | [] => True
  | m :: rest => c.Well m ∧ (c.move m).AllWell rest

section Decidable

instance (operation : Operation) : Decidable operation.Refused :=
  match operation with
  | .get key | .put key _ | .remove key => inferInstanceAs (Decidable key.Refused)
  | .clear textType => inferInstanceAs (Decidable (TextName.BadType textType))
  | .clearAll => inferInstanceAs (Decidable False)

instance (stage : Stage) : Decidable stage.Refused :=
  match stage with
  | .beginning operation => inferInstanceAs (Decidable operation.Refused)
  | .reading key _ => inferInstanceAs (Decidable key.Refused)
  | .asking _ _ _ | .dropping _ _ | .returned _ => inferInstanceAs (Decidable False)

instance (free : Double) (t : FastTier) (stage : Stage) : Decidable (stage.Fails free t) :=
  inferInstanceAs (Decidable (_ ∧ _ ∧ _))

instance (c : Crowd) (m : Move) : Decidable (c.Well m) :=
  match m with
  | .advance number free =>
    inferInstanceAs (Decidable (∀ stage ∈ c.stages[number]?, ¬ stage.Fails free c.tier))
  | .call _ | .wait _ => inferInstanceAs (Decidable True)

/-- Whether all is well can be computed. -/
def Crowd.decideAllWell (c : Crowd) : (moves : List Move) → Decidable (c.AllWell moves)
  | [] => inferInstanceAs (Decidable True)
  | m :: rest =>
    have := (c.move m).decideAllWell rest
    inferInstanceAs (Decidable (c.Well m ∧ (c.move m).AllWell rest))

instance (c : Crowd) (moves : List Move) : Decidable (c.AllWell moves) :=
  c.decideAllWell moves

end Decidable

/-! ## What one step does -/

/-- The stamps of a reader were taken now or earlier. -/
def Stage.Dated (m : Memory) : Stage → Prop
  | .reading _ stamp | .asking _ _ stamp => stamp.Old m
  | _ => True

/-- What a step does that is no failure of the disk. -/
structure Faithful (stage next : Stage) (t t' : FastTier) : Prop where
  sound : t'.Sound
  numbered : t'.memory.Numbered
  dated : next.Dated t'.memory
  /-- stamps from before the step stay stamps from before -/
  old : ∀ stamp : Stamp, stamp.Old t.memory → stamp.Old t'.memory
  /-- a stamp from before that is still good is that of a key that was not dropped -/
  stamps : ∀ (key : TextKey) (stamp : Stamp), stamp.Old t.memory → t'.memory.stamp key = stamp →
    stage.drops key = false ∧ t.memory.stamp key = stamp
  /-- a copy was there before and was not dropped, or its reader has kept it -/
  copies : ∀ (key : TextKey) (text : String), t'.memory.entries[key]? = some text →
    (stage.drops key = false ∧ t.memory.entries[key]? = some text) ∨
      stage = .asking key text (t.memory.stamp key)
  /-- the disk changes as the operation says -/
  stored : ∀ key, t'.stored? key = replay key (t.stored? key) stage.begun
  /-- where the disk changes, copies are about to be dropped -/
  covered : ∀ key, t'.stored? key = t.stored? key ∨ next.drops key = true
  /-- a reader has the text that the disk holds -/
  reads : ∀ (key : TextKey) (text : String) (stamp : Stamp), next = .asking key text stamp →
    t'.stored? key = some text

/-- Work on the files leaves a disk that tells the truth. -/
theorem Sound.of_leaves {t t' : FastTier} {touched : TextKey → Prop} (hs : t.Sound)
    (h : TextFiles.Leaves touched t.files.tier t'.files.tier) : t'.Sound where
  isTree := h.isTree
  honest := h.honest hs.honest

section Steps

variable {t t' : FastTier} {stage next : Stage} {free : Double}

/-- A step that is no memory step and leaves copies alone is described by what it does on the
disk. -/
theorem Faithful.of_memory_eq (hn : t.memory.Numbered) (hmem : t'.memory = t.memory)
    (hdrops : ∀ key, stage.drops key = false) (hsound : t'.Sound)
    (hdated : next.Dated t.memory)
    (hstored : ∀ key, t'.stored? key = replay key (t.stored? key) stage.begun)
    (hcovered : ∀ key, t'.stored? key = t.stored? key ∨ next.drops key = true)
    (hreads : ∀ key text stamp, next = .asking key text stamp → t'.stored? key = some text) :
    Faithful stage next t t' where
  sound := hsound
  numbered := by rwa [hmem]
  dated := by rwa [hmem]
  old := by
    intro stamp h
    rwa [hmem]
  stamps := by
    intro key stamp _ h
    rw [hmem] at h
    exact ⟨hdrops key, h⟩
  copies := by
    intro key text h
    rw [hmem] at h
    exact .inl ⟨hdrops key, h⟩
  stored := hstored
  covered := hcovered
  reads := hreads

/-- A step after which the tier is as it was. -/
theorem Faithful.unchanged (hs : t.Sound) (hn : t.memory.Numbered)
    (hdrops : ∀ key, stage.drops key = false)
    (hbegun : ∀ key before, replay key before stage.begun = before)
    (hdated : next.Dated t.memory)
    (hreads : ∀ key text stamp, next ≠ .asking key text stamp) : Faithful stage next t t := by
  apply Faithful.of_memory_eq hn rfl hdrops hs hdated
  · intro key
    exact (hbegun key _).symm
  · intro key
    exact .inl rfl
  · intro key text stamp h
    exact absurd h (hreads key text stamp)

/-- A step that changes the disk and is followed by a memory step. -/
theorem faithful_disk {operation : Operation} {drop : Drop} {answer : Answer}
    (hs : t.Sound) (hn : t.memory.Numbered) (hmem : t'.memory = t.memory)
    (hdisk : TextFiles.Leaves (fun k => drop.covers k = true) t.files.tier t'.files.tier)
    (heffect : ∀ key, drop.covers key = true →
      t'.stored? key = operation.effect key (t.stored? key))
    (hkeep : ∀ key before, drop.covers key = false → operation.effect key before = before) :
    Faithful (.beginning operation) (.dropping drop answer) t t' := by
  -- a key is either one that the disk step may touch and whose copy is dropped next, or neither
  have hsame : ∀ key, drop.covers key = false → t'.stored? key = t.stored? key := by
    intro key hcovers
    exact hdisk.texts key (by simp [hcovers])
  refine Faithful.of_memory_eq hn hmem (fun _ => rfl) (hs.of_leaves hdisk) trivial ?_ ?_
    (fun _ _ _ h => by cases h)
  · intro key
    cases hcovers : drop.covers key with
    | true => exact heffect key hcovers
    | false => exact (hsame key hcovers).trans (hkeep key _ hcovers).symm
  · intro key
    cases hcovers : drop.covers key with
    | true => exact .inr hcovers
    | false => exact .inl (hsame key hcovers)

/-- A step that is refused. The disk may have got directories, but no text is under a bad name. -/
theorem faithful_refused {operation : Operation} {drop : Drop} {answer : Answer}
    (hs : t.Sound) (hn : t.memory.Numbered) (hmem : t'.memory = t.memory)
    (hdisk : TextFiles.Leaves (fun k => drop.covers k = true) t.files.tier t'.files.tier)
    (hbad : ∀ key, drop.covers key = true → key.Refused)
    (heffect : ∀ key, drop.covers key = true → operation.effect key none = none)
    (hkeep : ∀ key before, drop.covers key = false → operation.effect key before = before) :
    Faithful (.beginning operation) (.returned answer) t t' := by
  have hnone : ∀ key, drop.covers key = true →
      t'.stored? key = none ∧ t.stored? key = none := fun key hcovers =>
    ⟨TextFiles.stored?_of_refused (hbad key hcovers) _,
      TextFiles.stored?_of_refused (hbad key hcovers) _⟩
  have hsame : ∀ key, t'.stored? key = t.stored? key := by
    intro key
    cases hcovers : drop.covers key with
    | true => rw [(hnone key hcovers).1, (hnone key hcovers).2]
    | false => exact hdisk.texts key (by simp [hcovers])
  refine Faithful.of_memory_eq hn hmem (fun _ => rfl) (hs.of_leaves hdisk) trivial ?_
    (fun key => .inl (hsame key)) (fun _ _ _ h => by cases h)
  intro key
  rw [hsame key]
  cases hcovers : drop.covers key with
  | true =>
    rw [(hnone key hcovers).2]
    exact (heffect key hcovers).symm
  | false => exact (hkeep key _ hcovers).symm

/-- A read that begins takes the stamp that its key has now. -/
theorem faithful_begin_get {key : TextKey} (hs : t.Sound) (hn : t.memory.Numbered) :
    Faithful (.beginning (.get key)) (step free (.beginning (.get key)) t).1 t
      (step free (.beginning (.get key)) t).2 := by
  cases he : t.memory.entries[key]? with
  | some text =>
    simp only [step, he]
    refine Faithful.unchanged hs hn (fun _ => rfl) (fun _ _ => rfl) trivial ?_
    intro _ _ _ h
    cases h
  | none =>
    -- the stamp is the one that the key has now
    simp only [step, he]
    refine Faithful.unchanged hs hn (fun _ => rfl) (fun _ _ => rfl) (hn.old_stamp key) ?_
    intro _ _ _ h
    cases h

/-- A reader takes the text along that the disk holds at that moment. -/
theorem faithful_reading {key : TextKey} {stamp : Stamp} (hs : t.Sound) (hn : t.memory.Numbered)
    (hold : stamp.Old t.memory) :
    Faithful (.reading key stamp) (step free (.reading key stamp) t).1 t
      (step free (.reading key stamp) t).2 := by
  rcases hf : t.files.tier.find key with ⟨outcome, f⟩
  obtain ⟨hleaves, hsome, -⟩ := TextFiles.find_spec hs.isTree hf
  have hsound : Sound { t with files := { t.files with tier := f } } := hs.of_leaves hleaves
  have hstored : ∀ k, f.stored? k = t.stored? k := fun k => hleaves.texts k not_false
  rcases outcome with e | _ | text <;> simp only [step, onFiles, TextCache.onTier, hf]
  · exact Faithful.of_memory_eq hn rfl (fun _ => rfl) hsound trivial hstored
      (fun k => .inl (hstored k)) (fun _ _ _ h => by cases h)
  · exact Faithful.of_memory_eq hn rfl (fun _ => rfl) hsound trivial hstored
      (fun k => .inl (hstored k)) (fun _ _ _ h => by cases h)
  · -- the reader takes the text along that the disk holds now
    refine Faithful.of_memory_eq hn rfl (fun _ => rfl) hsound hold hstored
      (fun k => .inl (hstored k)) ?_
    rintro k found taken h
    obtain ⟨rfl, rfl, -⟩ := Stage.asking.inj h
    exact (hstored key).trans (hsome text rfl)

/-- A reader leaves a copy only if its stamp is still good. -/
theorem faithful_asking {key : TextKey} {text : String} {stamp : Stamp} (hs : t.Sound)
    (hn : t.memory.Numbered) :
    Faithful (.asking key text stamp) (step free (.asking key text stamp) t).1 t
      (step free (.asking key text stamp) t).2 := by
  unfold step endRead
  by_cases hfree : t.minFree.lt free = true
  · simp only [hfree, if_true]
    refine ⟨⟨hs.isTree, hs.honest⟩, hn.promote key text stamp, trivial, ?_, ?_, ?_, fun _ => rfl,
      fun _ => .inl rfl, fun _ _ _ h => by cases h⟩
    · intro other h
      exact h.promote key text stamp
    · intro k other _ h
      exact ⟨rfl, by simpa using h⟩
    · -- a copy that is new is that of this reader, whose stamp is still good
      intro k copy h
      rcases Memory.entries_promote h with h | ⟨rfl, rfl, hstamp⟩
      · exact .inl ⟨rfl, h⟩
      · exact .inr (by rw [hstamp])
  · -- too little memory is free for another copy
    simp only [hfree, Bool.false_eq_true, if_false]
    refine Faithful.unchanged hs hn (fun _ => rfl) (fun _ _ => rfl) trivial ?_
    intro _ _ _ h
    cases h

/-- To drop copies outdates all stamps of their keys. -/
theorem faithful_dropping {drop : Drop} {answer : Answer} (hs : t.Sound)
    (hn : t.memory.Numbered) :
    Faithful (.dropping drop answer) (step free (.dropping drop answer) t).1 t
      (step free (.dropping drop answer) t).2 := by
  unfold step
  refine ⟨⟨hs.isTree, hs.honest⟩, hn.apply drop, trivial, ?_, ?_, ?_, fun _ => rfl,
    fun _ => .inl rfl, fun _ _ _ h => by cases h⟩
  · intro stamp h
    exact h.apply drop
  · intro key stamp hold h
    exact hold.stamp_apply h
  · intro key text h
    rw [Memory.entries_apply] at h
    cases hcovers : drop.covers key with
    | true => simp [hcovers] at h
    | false => exact .inl ⟨hcovers, by simpa [hcovers] using h⟩

/-- A `put` that has changed the disk goes on to drop the copy. -/
theorem faithful_begin_put {key : TextKey} {text : String} (hs : t.Sound)
    (hn : t.memory.Numbered) (hok : ¬ Stage.Fails free t (.beginning (.put key text))) :
    Faithful (.beginning (.put key text)) (step free (.beginning (.put key text)) t).1 t
      (step free (.beginning (.put key text)) t).2 := by
  rcases hw : t.files.tier.write key text with ⟨outcome, f⟩
  obtain ⟨hleaves, hstored⟩ := TextFiles.write_spec hs.isTree hw
  simp only [Stage.Fails, step, onFiles, TextCache.onTier, hw] at hok ⊢
  refine faithful_disk hs hn rfl ?_ ?_ ?_
  · exact hleaves.mono fun k hk => by simp [Drop.covers, hk.2]
  · intro k hk
    obtain rfl : key = k := by simpa [Drop.covers] using hk
    by_cases hbad : key.Refused
    · -- the disk step was refused, but the copy is dropped all the same
      have hsame : f.stored? key = t.files.tier.stored? key := by
        rw [TextFiles.stored?_of_refused hbad, TextFiles.stored?_of_refused hbad]
      exact hsame.trans (if_neg fun h => h.2 hbad).symm
    · rcases outcome with e | u
      · exact absurd ⟨rfl, rfl, hbad⟩ hok
      · exact (hstored rfl).trans (if_pos ⟨rfl, hbad⟩).symm
  · intro k before hk
    have hne : key ≠ k := by simpa [Drop.covers] using hk
    exact if_neg fun h => hne h.1

theorem faithful_begin_remove {key : TextKey} (hs : t.Sound) (hn : t.memory.Numbered)
    (hok : ¬ Stage.Fails free t (.beginning (.remove key))) :
    Faithful (.beginning (.remove key)) (step free (.beginning (.remove key)) t).1 t
      (step free (.beginning (.remove key)) t).2 := by
  rcases hr : t.files.tier.remove key with ⟨outcome, f⟩
  obtain ⟨hremoved, hgone⟩ := TextFiles.remove_spec hs.isTree hr
  have hleaves : TextFiles.Leaves (fun k => (Drop.key key).covers k = true) t.files.tier f :=
    hremoved.mono fun k hk => by simp [Drop.covers, hk]
  have hcovered : ∀ k, (Drop.key key).covers k = true → key = k := by
    intro k hk
    simpa [Drop.covers] using hk
  have hkeep : ∀ k before, (Drop.key key).covers k = false →
      (Operation.remove key).effect k before = before := by
    intro k before hk
    have hne : key ≠ k := by simpa [Drop.covers] using hk
    exact if_neg hne
  simp only [Stage.Fails, step, onFiles, TextCache.onTier, hr] at hok ⊢
  rcases outcome with e | existed
  · have hbad : key.Refused := by
      by_contra hgood
      exact hok ⟨rfl, rfl, hgood⟩
    exact faithful_refused hs hn rfl hleaves (fun k hk => hcovered k hk ▸ hbad)
      (fun k hk => if_pos (hcovered k hk)) hkeep
  · refine faithful_disk hs hn rfl hleaves ?_ hkeep
    intro k hk
    obtain rfl := hcovered k hk
    exact (hgone hs.honest existed rfl).trans (if_pos rfl).symm

theorem faithful_begin_clear {textType : String} (hs : t.Sound) (hn : t.memory.Numbered)
    (hok : ¬ Stage.Fails free t (.beginning (.clear textType))) :
    Faithful (.beginning (.clear textType)) (step free (.beginning (.clear textType)) t).1 t
      (step free (.beginning (.clear textType)) t).2 := by
  rcases hc : t.files.tier.clear textType with ⟨outcome, f⟩
  obtain ⟨hcleared, hgone⟩ := TextFiles.clear_spec hs.isTree hc
  have hleaves : TextFiles.Leaves (fun k => (Drop.textType textType).covers k = true)
      t.files.tier f := hcleared.mono fun k hk => by simp [Drop.covers, hk]
  have hcovered : ∀ k, (Drop.textType textType).covers k = true → k.textType = textType := by
    intro k hk
    simpa [Drop.covers] using hk
  have hkeep : ∀ k before, (Drop.textType textType).covers k = false →
      (Operation.clear textType).effect k before = before := by
    intro k before hk
    have hne : k.textType ≠ textType := by simpa [Drop.covers] using hk
    exact if_neg hne
  simp only [Stage.Fails, step, onFiles, TextCache.onTier, hc] at hok ⊢
  rcases outcome with e | n
  · have hbad : TextName.BadType textType := by
      by_contra hgood
      exact hok ⟨rfl, rfl, hgood⟩
    exact faithful_refused hs hn rfl hleaves (fun k hk => .inl (by rwa [hcovered k hk]))
      (fun k hk => if_pos (hcovered k hk)) hkeep
  · refine faithful_disk hs hn rfl hleaves ?_ hkeep
    intro k hk
    exact (hgone hs.honest n rfl k (hcovered k hk)).trans (if_pos (hcovered k hk)).symm

/-- A clearing of all types that has changed the disk goes on to drop all copies. -/
theorem faithful_begin_clearAll (hs : t.Sound) (hn : t.memory.Numbered)
    (hok : ¬ Stage.Fails free t (.beginning .clearAll)) :
    Faithful (.beginning .clearAll) (step free (.beginning .clearAll) t).1 t
      (step free (.beginning .clearAll) t).2 := by
  rcases hc : t.files.tier.clearAll with ⟨outcome, f⟩
  simp only [Stage.Fails, step, onFiles, TextCache.onTier, hc] at hok ⊢
  rcases outcome with e | n
  · -- no names are given that could be refused
    exact absurd ⟨rfl, rfl, not_false⟩ hok
  · obtain ⟨hleaves, hgone⟩ := TextFiles.clearAll_spec hs.isTree hc hs.honest n rfl
    refine faithful_disk hs hn rfl ?_ ?_ ?_
    · exact hleaves.mono fun k _ => rfl
    · intro k _
      exact hgone k
    · intro k before hk
      cases hk

/-- Every step in which no operation fails is faithful. -/
theorem step_faithful (hs : t.Sound) (hn : t.memory.Numbered) (hd : stage.Dated t.memory)
    (hok : ¬ stage.Fails free t) :
    Faithful stage (step free stage t).1 t (step free stage t).2 := by
  cases stage with
  | reading key stamp => exact faithful_reading hs hn hd
  | asking key text stamp => exact faithful_asking hs hn
  | dropping drop answer => exact faithful_dropping hs hn
  | returned answer =>
    refine Faithful.unchanged hs hn (fun _ => rfl) (fun _ _ => rfl) trivial ?_
    intro _ _ _ h
    cases h
  | beginning operation =>
    cases operation with
    | get key => exact faithful_begin_get hs hn
    | put key text => exact faithful_begin_put hs hn hok
    | remove key => exact faithful_begin_remove hs hn hok
    | clear textType => exact faithful_begin_clear hs hn hok
    | clearAll => exact faithful_begin_clearAll hs hn hok

end Steps

/-! ## What every move preserves -/

namespace Crowd

/-- A text is the one on the disk, unless the copy of its key is about to be dropped. -/
def UpToDate (c : Crowd) (key : TextKey) (text : String) : Prop :=
  c.tier.stored? key = some text ∨ c.Pending key

/-- Copies are up to date, and so is every text that its reader could still keep. -/
structure Coherent (c : Crowd) : Prop where
  sound : c.tier.Sound
  numbered : c.tier.memory.Numbered
  dated : ∀ stage ∈ c.stages, stage.Dated c.tier.memory
  copies : ∀ key text, c.tier.memory.entries[key]? = some text → c.UpToDate key text
  readers : ∀ key text, Stage.asking key text (c.tier.memory.stamp key) ∈ c.stages →
    c.UpToDate key text

variable {c : Crowd} {stage next : Stage} {t' : FastTier} {number : Nat}

/-- A pending drop stays pending while others take their steps. -/
theorem pending_set {key : TextKey} {history : List Operation} (h : c.Pending key)
    (hs : c.stages[number]? = some stage) (hdrops : stage.drops key = false) :
    Pending { tier := t', stages := c.stages.set number next, history } key := by
  obtain ⟨other, hmem, hother⟩ := h
  obtain ⟨i, hi⟩ := List.mem_iff_getElem?.1 hmem
  -- the pending operation is another one than that which takes the step
  have hne : number ≠ i := by
    rintro rfl
    rw [hs] at hi
    rw [Option.some.inj hi, hother] at hdrops
    cases hdrops
  refine ⟨other, ?_, hother⟩
  exact List.mem_iff_getElem?.2 ⟨i, by rw [List.getElem?_set_ne hne, hi]⟩

theorem mem_set_self (hs : c.stages[number]? = some stage) :
    next ∈ c.stages.set number next :=
  List.mem_set (List.getElem?_eq_some_iff.1 hs).1 _

/-- A faithful step of any operation preserves coherence. -/
theorem Coherent.advance {history : List Operation} (h : c.Coherent)
    (hs : c.stages[number]? = some stage) (hstep : Faithful stage next c.tier t') :
    Coherent { tier := t', stages := c.stages.set number next, history } := by
  -- a text that is up to date stays so, unless this step has dropped its copy
  have hkeep : ∀ key text, stage.drops key = false → c.UpToDate key text →
      UpToDate { tier := t', stages := c.stages.set number next, history } key text := by
    intro key text hdrops hup
    rcases hup with hup | hup
    · rcases hstep.covered key with hsame | hnext
      · exact .inl (hsame.trans hup)
      · exact .inr ⟨next, mem_set_self hs, hnext⟩
    · exact .inr (pending_set hup hs hdrops)
  have hmem : stage ∈ c.stages := List.mem_iff_getElem?.2 ⟨number, hs⟩
  refine ⟨hstep.sound, hstep.numbered, ?_, ?_, ?_⟩
  · intro other hother
    rcases List.mem_or_eq_of_mem_set hother with hother | rfl
    · have := h.dated other hother
      cases other with
      | reading key stamp => exact hstep.old stamp this
      | asking key text stamp => exact hstep.old stamp this
      | beginning operation => trivial
      | dropping drop answer => trivial
      | returned answer => trivial
    · exact hstep.dated
  · intro key text hentry
    rcases hstep.copies key text hentry with ⟨hdrops, hbefore⟩ | hasking
    · exact hkeep key text hdrops (h.copies key text hbefore)
    · -- the copy is that of a reader whose stamp was still good
      have hdrops : stage.drops key = false := by rw [hasking]; rfl
      exact hkeep key text hdrops (h.readers key text (hasking ▸ hmem))
  · intro key text hasking
    rcases List.mem_or_eq_of_mem_set hasking with hother | hnext
    · -- if the stamp is good after the step, it was before, and the key was not dropped
      have hold : (t'.memory.stamp key).Old c.tier.memory := h.dated _ hother
      obtain ⟨hdrops, hstamp⟩ := hstep.stamps key _ hold rfl
      exact hkeep key text hdrops (h.readers key text (by rwa [hstamp]))
    · -- a text that was read just now is the one on the disk
      exact .inl (hstep.reads key text _ hnext.symm)

/-- To call an operation touches neither the disk nor the copies. -/
theorem Coherent.call (h : c.Coherent) (operation : Operation) :
    (c.move (.call operation)).Coherent := by
  have hkeep : ∀ key text, c.UpToDate key text →
      (c.move (.call operation)).UpToDate key text := by
    intro key text hup
    rcases hup with hup | ⟨stage, hmem, hdrops⟩
    · exact .inl hup
    · exact .inr ⟨stage, List.mem_append_left _ hmem, hdrops⟩
  refine ⟨h.sound, h.numbered, ?_, ?_, ?_⟩
  · intro stage hmem
    rcases List.mem_append.1 hmem with hmem | hmem
    · exact h.dated stage hmem
    · rw [List.mem_singleton.1 hmem]
      trivial
  · intro key text hentry
    exact hkeep key text (h.copies key text hentry)
  · intro key text hmem
    rcases List.mem_append.1 hmem with hmem | hmem
    · exact hkeep key text (h.readers key text hmem)
    · cases List.mem_singleton.1 hmem

/-- Every move preserves coherence in which no operation fails. -/
theorem Coherent.move (h : c.Coherent) (m : Move) (hwell : c.Well m) :
    (c.move m).Coherent := by
  cases m with
  | call operation => exact h.call operation
  | wait now => exact ⟨⟨h.sound.isTree, h.sound.honest⟩, h.numbered, h.dated, h.copies, h.readers⟩
  | advance number free =>
    cases hs : c.stages[number]? with
    | none => simpa only [Crowd.move, hs] using h
    | some stage =>
      rw [move_advance free hs]
      have hok := hwell stage hs
      have hmem : stage ∈ c.stages := List.mem_iff_getElem?.2 ⟨number, hs⟩
      exact h.advance hs (step_faithful h.sound h.numbered (h.dated stage hmem) hok)

theorem Coherent.run {moves : List Move} (h : c.Coherent) (hwell : c.AllWell moves) :
    (c.run moves).Coherent := by
  induction moves generalizing c with
  | nil => exact h
  | cons m rest ih => exact ih (h.move m hwell.1) hwell.2

theorem allWell_append {front back : List Move} :
    c.AllWell (front ++ back) ↔ c.AllWell front ∧ (c.run front).AllWell back := by
  induction front generalizing c with
  | nil => exact (and_iff_right trivial).symm
  | cons m rest ih =>
    rw [List.cons_append, AllWell, AllWell, ih, and_assoc]
    rfl

/-- A cache that was opened with nothing in memory is coherent. -/
theorem coherent_start {t : FastTier} (hempty : t.memory = {}) (hs : t.Sound) :
    Coherent { tier := t } := by
  refine ⟨hs, ?_, fun _ h => absurd h List.not_mem_nil, ?_,
    fun _ _ h => absurd h List.not_mem_nil⟩
  · rw [hempty]
    exact Memory.numbered_empty
  · intro key text h
    simp [hempty] at h

/-! ## The disk and the history -/

/-- A move makes of a stored text what the operations that it begins make of it. -/
theorem stored?_move (h : c.Coherent) (m : Move) (hwell : c.Well m) (key : TextKey) :
    ∃ begun, (c.move m).history = c.history ++ begun ∧
      (c.move m).tier.stored? key = replay key (c.tier.stored? key) begun := by
  cases m with
  | call operation => exact ⟨[], (List.append_nil _).symm, rfl⟩
  | wait now => exact ⟨[], (List.append_nil _).symm, rfl⟩
  | advance number free =>
    cases hs : c.stages[number]? with
    | none => exact ⟨[], by simp [Crowd.move, hs], by simp [Crowd.move, hs, replay]⟩
    | some stage =>
      rw [move_advance free hs]
      have hok := hwell stage hs
      have hmem : stage ∈ c.stages := List.mem_iff_getElem?.2 ⟨number, hs⟩
      have hstep := step_faithful h.sound h.numbered (h.dated stage hmem) hok
      exact ⟨stage.begun, rfl, hstep.stored key⟩

/-- The disk holds what the operations have made of it in the order of their disk steps. -/
theorem stored?_run {moves : List Move} (h : c.Coherent) (hwell : c.AllWell moves)
    (key : TextKey) :
    ∃ begun, (c.run moves).history = c.history ++ begun ∧
      (c.run moves).tier.stored? key = replay key (c.tier.stored? key) begun := by
  induction moves generalizing c with
  | nil => exact ⟨[], (List.append_nil _).symm, rfl⟩
  | cons m rest ih =>
    obtain ⟨first, hfirst, hstored⟩ := stored?_move h m hwell.1 key
    obtain ⟨others, hothers, hafter⟩ := ih (h.move m hwell.1) hwell.2
    refine ⟨first ++ others, ?_, ?_⟩
    · rw [run_cons, hothers, hfirst, List.append_assoc]
    · rw [run_cons, hafter, hstored, replay, replay, replay, List.foldl_append]

/-! ## Reading while nothing is pending -/

/-- What a `get` answers that has found a text under a key, or nothing. Bad names are refused. -/
def served (key : TextKey) (found : Option String) : Outcome (Option String) :=
  (Shelves.permit key).map fun _ => found

theorem not_refused_of_permit {key : TextKey} (h : Shelves.permit key = .ok ()) :
    ¬ key.Refused := by
  have hjudged : Judges (TextName.Bad key.id ∨ TextName.BadType key.textType)
      (Shelves.permit key) () :=
    Judges.bind (f := fun _ => TextName.checkType key.textType)
      (TextName.judges_check "id" key.id) (TextName.judges_checkType key.textType)
  rcases hjudged with ⟨-, message, hrefused⟩ | ⟨hgood, -⟩
  · cases h.symm.trans hrefused
  · exact fun hbad => hgood hbad.symm

/-- A text is served as it is, for its names are good. -/
theorem served_of_stored? {t : FastTier} {key : TextKey} {text : String}
    (h : t.stored? key = some text) : served key (some text) = .ok (some text) := by
  cases hpermit : Shelves.permit key with
  | error e =>
    have hpath := TextFiles.entryPath_of_refused (f := t.files.tier) hpermit
    simp [FastTier.stored?, TextFiles.stored?, hpath] at h
  | ok u => simp only [served, hpermit, Except.map]

/-- An operation that will answer a text, or nothing, as the text under a key. -/
def Serves (key : TextKey) (found : Option String) : Stage → Prop
  | .beginning operation => operation = .get key
  | .reading k _ => k = key
  | .asking k text _ => k = key ∧ served key found = .ok (some text)
  | .returned answer => answer = .found (served key found)
  | .dropping _ _ => False

/-- A reader that meets the text in memory or on the disk has it from then on. -/
theorem serves_step {t : FastTier} {free : Double} {key : TextKey} {found : Option String}
    (hs : t.Sound) (h : Serves key found stage) (hdisk : t.stored? key = found)
    (hcopy : ∀ text, t.memory.entries[key]? = some text → found = some text)
    (hok : ¬ stage.Fails free t) : Serves key found (step free stage t).1 := by
  cases stage with
  | beginning operation =>
    subst h
    cases he : t.memory.entries[key]? with
    | some text =>
      -- the copy is up to date because nothing is pending
      obtain rfl := hcopy text he
      simp only [step, he]
      exact congrArg Answer.found (served_of_stored? hdisk).symm
    | none =>
      simp only [step, he]
      rfl
  | reading k stamp =>
    subst h
    rcases hf : t.files.tier.find k with ⟨outcome, f⟩
    obtain ⟨-, hsome, hnone⟩ := TextFiles.find_spec hs.isTree hf
    cases hpermit : Shelves.permit k with
    | error e =>
      -- the disk refuses the names for the same reason
      simp only [TextFiles.find, TextFiles.entryPath_of_refused hpermit] at hf
      obtain ⟨rfl, rfl⟩ := Prod.mk.inj hf
      simp only [step, onFiles, TextCache.onTier, TextFiles.find,
        TextFiles.entryPath_of_refused hpermit, Serves, served, hpermit, Except.map]
    | ok u =>
      have hgood := not_refused_of_permit hpermit
      rcases outcome with e | _ | text <;>
        simp only [Stage.Fails, step, onFiles, TextCache.onTier, hf] at hok ⊢
      · exact absurd ⟨rfl, rfl, hgood⟩ hok
      · obtain rfl : found = none := hdisk.symm.trans (hnone hs.honest rfl)
        simp only [Serves, served, hpermit, Except.map]
      · obtain rfl : found = some text := hdisk.symm.trans (hsome text rfl)
        exact ⟨rfl, served_of_stored? hdisk⟩
  | asking k text stamp =>
    obtain ⟨rfl, hserved⟩ := h
    exact congrArg Answer.found hserved.symm
  | returned answer => exact h
  | dropping drop answer => exact h.elim

/-- While no drop is pending for a key, a move neither changes its text nor leads its readers to
another one. -/
theorem serves_move {key : TextKey} {found : Option String} (h : c.Coherent) (m : Move)
    (hwell : c.Well m) (hbefore : ¬ c.Pending key) (hafter : ¬ (c.move m).Pending key)
    (hdisk : c.tier.stored? key = found)
    (hserves : ∃ stage, c.stages[number]? = some stage ∧ Serves key found stage) :
    (c.move m).tier.stored? key = found ∧
      ∃ stage, (c.move m).stages[number]? = some stage ∧ Serves key found stage := by
  obtain ⟨reader, hreader, hserves⟩ := hserves
  cases m with
  | call operation =>
    refine ⟨hdisk, reader, ?_, hserves⟩
    exact List.getElem?_append_left (List.getElem?_eq_some_iff.1 hreader).1 |>.trans hreader
  | wait now => exact ⟨hdisk, reader, hreader, hserves⟩
  | advance other free =>
    cases hs : c.stages[other]? with
    | none => simpa only [Crowd.move, hs] using ⟨hdisk, reader, hreader, hserves⟩
    | some stage =>
      rw [move_advance free hs] at hafter ⊢
      have hok := hwell stage hs
      have hmem : stage ∈ c.stages := List.mem_iff_getElem?.2 ⟨other, hs⟩
      have hstep := step_faithful h.sound h.numbered (h.dated stage hmem) hok
      -- a step that changes the text under the key would leave a drop pending
      have hsame : (step free stage c.tier).2.stored? key = found := by
        rcases hstep.covered key with hsame | hdrops
        · exact hsame.trans hdisk
        · exact absurd ⟨_, mem_set_self hs, hdrops⟩ hafter
      refine ⟨hsame, ?_⟩
      by_cases hn : other = number
      · -- the step is one of the reader itself
        subst hn
        obtain rfl : stage = reader := by
          rw [hs] at hreader
          exact Option.some.inj hreader
        have hcopy : ∀ text, c.tier.memory.entries[key]? = some text → found = some text := by
          intro text hentry
          rcases h.copies key text hentry with hstored | hpending
          · exact hdisk.symm.trans hstored
          · exact absurd hpending hbefore
        exact ⟨_, List.getElem?_set_self (List.getElem?_eq_some_iff.1 hs).1,
          serves_step h.sound hserves hdisk hcopy hok⟩
      · exact ⟨reader, (List.getElem?_set_ne hn).trans hreader, hserves⟩

/-- An operation that serves a text goes on serving it while nobody works on its key. -/
theorem serves_run {key : TextKey} {found : Option String} {moves : List Move} (h : c.Coherent)
    (hwell : c.AllWell moves)
    (hquiet : ∀ front, front <+: moves → ¬ (c.run front).Pending key)
    (hdisk : c.tier.stored? key = found)
    (hserves : ∃ stage, c.stages[number]? = some stage ∧ Serves key found stage) :
    ∃ stage, (c.run moves).stages[number]? = some stage ∧ Serves key found stage := by
  induction moves generalizing c with
  | nil => exact hserves
  | cons m rest ih =>
    have hbefore : ¬ c.Pending key := hquiet [] (List.nil_prefix)
    have hafter : ¬ (c.move m).Pending key := hquiet [m] (by simp)
    obtain ⟨hdisk', hserves'⟩ := serves_move h m hwell.1 hbefore hafter hdisk hserves
    apply ih (h.move m hwell.1) hwell.2 ?_ hdisk' hserves'
    intro front hfront
    exact hquiet (m :: front) (List.cons_prefix_cons.2 ⟨rfl, hfront⟩)

end Crowd

/-! ## Coherence -/

/-- For every order in which operations on one cache take their steps, on a disk that fails in none
of them: a copy differs from the text on the disk only while an operation that has changed the disk
is still about to drop it; the disk holds what the operations have made of it, in the order of their
disk steps; and a `get` that meets no such operation answers the text that the operations before it
have left, however late the readers are that were called before. Names may be refused. -/
theorem copies_coherent {t : FastTier} (hempty : t.memory = {}) (hsound : t.Sound)
    (moves : List Move) (hwell : Crowd.AllWell { tier := t } moves) :
    (∀ key text, (Crowd.after t moves).tier.memory.entries[key]? = some text →
      (Crowd.after t moves).tier.stored? key ≠ some text → (Crowd.after t moves).Pending key) ∧
    (∀ key, (Crowd.after t moves).tier.stored? key =
      replay key (t.stored? key) (Crowd.after t moves).history) ∧
    (∀ (before during : List Move) (key : TextKey) (number : Nat) (answer : Answer),
      moves = before ++ during →
      (Crowd.after t before).stages[number]? = some (Stage.beginning (.get key)) →
      (∀ front, front <+: during → ¬ (Crowd.after t (before ++ front)).Pending key) →
      (Crowd.after t moves).stages[number]? = some (Stage.returned answer) →
      answer = Answer.found (Crowd.served key
        (replay key (t.stored? key) (Crowd.after t before).history))) := by
  have hstart : Crowd.Coherent { tier := t } := Crowd.coherent_start hempty hsound
  -- nothing was called at first, so the history is that of the moves
  have hdisk : ∀ moves, Crowd.AllWell { tier := t } moves → ∀ key,
      (Crowd.after t moves).tier.stored? key =
        replay key (t.stored? key) (Crowd.after t moves).history := by
    intro moves hwell key
    obtain ⟨begun, hhistory, hstored⟩ := Crowd.stored?_run hstart hwell key
    exact hstored.trans (congrArg (replay key (t.stored? key)) hhistory.symm)
  refine ⟨?_, hdisk moves hwell, ?_⟩
  · intro key text hentry hdiffers
    rcases (hstart.run hwell).copies key text hentry with hsame | hpending
    · exact absurd hsame hdiffers
    · exact hpending
  · rintro before during key number answer rfl hget hquiet hreturned
    obtain ⟨hbefore, hduring⟩ := Crowd.allWell_append.1 hwell
    simp only [Crowd.after_append] at hreturned hquiet
    have hcoherent : (Crowd.after t before).Coherent := hstart.run hbefore
    -- from its call on, the reader is one that will answer what the disk holds then
    obtain ⟨stage, hstage, hserves⟩ :=
      Crowd.serves_run hcoherent hduring hquiet (hdisk before hbefore key) ⟨_, hget, rfl⟩
    rw [hreturned] at hstage
    obtain rfl := Option.some.inj hstage
    exact hserves

deriving instance DecidableEq for Operation, Answer, Drop, Stage

def opened : FastTier where
  files := { tier := { disk := { now := 0 }, root := [], base := "/" } }
  minFree := ⟨0⟩

/-- A reader has read a text from the disk and not copied it yet, when another text is put and a
name is refused. After the `put` has returned the text is read once more, and the first reader goes
on in the middle of that. -/
def lateReader : List Move × List Move :=
  let plenty : Double := ⟨0x3FF0000000000000⟩
  ([.call (.put ⟨"a", "b"⟩ "old"), .advance 0 plenty, .advance 0 plenty,
      .call (.get ⟨"a", "b"⟩), .advance 1 plenty, .advance 1 plenty,
      .call (.put ⟨"a", "b"⟩ "new"), .advance 2 plenty, .advance 2 plenty,
      .call (.put ⟨"..", "b"⟩ "text"), .advance 3 plenty, .call (.get ⟨"a", "b"⟩)],
    [.advance 4 plenty, .advance 1 plenty, .advance 3 plenty, .advance 4 plenty,
      .advance 4 plenty])

/-- The later reader answers the new text, though the first one goes on with the old text
before the other looks at the disk. -/
theorem copies_coherent_late_reader :
    opened.memory = {} ∧ opened.Sound ∧
      Crowd.AllWell { tier := opened } (lateReader.1 ++ lateReader.2) ∧
      (Crowd.after opened lateReader.1).stages[1]? =
        some (.asking ⟨"a", "b"⟩ "old" ⟨1, 0⟩) ∧
      ∃ answer, (Crowd.after opened (lateReader.1 ++ lateReader.2)).stages[4]? =
        some (.returned answer) ∧ answer = .found (.ok (some "new")) := by
  have hsound : opened.Sound := ⟨FileTree.isTree_empty, fun _ => nofun⟩
  have hwell : Crowd.AllWell { tier := opened } (lateReader.1 ++ lateReader.2) := by
    decide +kernel
  have hquiet : ∀ n < 6,
      ¬ (Crowd.after opened (lateReader.1 ++ lateReader.2.take n)).Pending ⟨"a", "b"⟩ := by
    unfold Crowd.Pending
    decide +kernel
  obtain ⟨answer, hanswer⟩ : ∃ answer,
      (Crowd.after opened (lateReader.1 ++ lateReader.2)).stages[4]? = some (.returned answer) :=
    ⟨.found (.ok (some "new")), by decide +kernel⟩
  have hserved : Crowd.served ⟨"a", "b"⟩ (replay ⟨"a", "b"⟩ (opened.stored? ⟨"a", "b"⟩)
      (Crowd.after opened lateReader.1).history) = .ok (some "new") := by
    decide +kernel
  refine ⟨rfl, hsound, hwell, by decide +kernel, answer, hanswer, ?_⟩
  rw [← hserved]
  refine (copies_coherent rfl hsound _ hwell).2.2 lateReader.1 lateReader.2 ⟨"a", "b"⟩ 4 answer
    rfl (by decide +kernel) ?_ hanswer
  intro front hfront
  rw [List.prefix_iff_eq_take.1 hfront]
  exact hquiet front.length (Nat.lt_succ_of_le hfront.length_le)

end FastTier
end CacheService
