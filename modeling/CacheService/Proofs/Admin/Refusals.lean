import CacheService.Proofs.Admin.Same
import CacheService.Proofs.Expiring.Misses
import CacheService.Proofs.TextStore.FailedPut

/-!
# Requests that are refused

A request whose answer blames it has changed nothing that anybody could notice, be it refused for
its method, its path, its body or the names in it. A request for something that is not there may
take away objects that have expired, and count a miss (`refusals_unseen`).

Every action is looked at once (`Verdict`): it was served or failed by the service's own fault, or
it went unseen, or an object or a text was not found.
-/

namespace CacheService
namespace Service

open TextName

/-! ## What nobody notices -/

/-- The service, while other faults of the disk are to come. -/
def facing (s : Service) (calls : Nat) (fault : Nat → Option IoError) : Service :=
  let files := s.texts.tier.files.facing calls fault
  { s with texts := { s.texts with tier := { s.texts.tier with files } } }

/-- The service after a read that has found no text. -/
def missed (key : TextKey) (s : Service) : Service :=
  { s with texts := { s.texts with stats := s.texts.stats.record key.textType false } }

/-- What nobody has noticed: the objects with their deadlines and the number of reads are the same,
and so are the copies of texts, all that the disk has and the counters. Calls of the disk may have
been made, so later ones have other numbers. -/
structure Unseen (s s' : Service) : Prop where
  objects : s'.objects = s.objects
  copies : s'.texts.tier.memory.entries = s.texts.tier.memory.entries
  minFree : s'.texts.tier.minFree = s.texts.tier.minFree
  files : ∀ calls fault,
    s'.texts.tier.files.facing calls fault = s.texts.tier.files.facing calls fault
  stats : s'.texts.stats = s.texts.stats

variable {ρ : Type} {web : Framework ρ} {s s' : Service} {w : Surroundings}

namespace Unseen

theorem refl (s : Service) : Unseen s s :=
  ⟨rfl, rfl, rfl, fun _ _ => rfl, rfl⟩

theorem trans {s'' : Service} (h : Unseen s s') (h' : Unseen s' s'') : Unseen s s'' where
  objects := h'.objects.trans h.objects
  copies := h'.copies.trans h.copies
  minFree := h'.minFree.trans h.minFree
  files calls fault := (h'.files calls fault).trans (h.files calls fault)
  stats := h'.stats.trans h.stats

/-- Nobody notices that texts have other versions. -/
theorem of_alike {tier : FastTier} (h : FastTier.Alike tier s.texts.tier) :
    Unseen s { s with texts := { s.texts with tier } } where
  objects := rfl
  copies := h.entries
  minFree := h.minFree
  files calls fault := by rw [h.files]
  stats := rfl

/-- Nobody notices calls that only look at the files. -/
theorem of_looked {f : TextFiles} (h : TextFiles.Looked s.texts.tier.files.tier f) :
    Unseen s { s with
      texts := { s.texts with
        tier := { s.texts.tier with files := { s.texts.tier.files with tier := f } } } } where
  objects := rfl
  copies := rfl
  minFree := rfl
  files calls fault := by
    obtain ⟨calls', rfl⟩ := h
    rfl
  stats := rfl

/-- Work that only looks at the files. -/
theorem onFiles {α : Type} {act : TextFiles → α × TextFiles}
    (hact : ∀ f, TextFiles.Looked f (act f).2) (s : Service) :
    Unseen s { s with texts := (s.texts.onTier (FastTier.onFiles act)).2 } :=
  of_looked (hact s.texts.tier.files.tier)

/-- With the same faults to come, what nobody has noticed is the same service. -/
theorem same (h : Unseen s s') (calls : Nat) (fault : Nat → Option IoError) :
    Same (s'.facing calls fault) (s.facing calls fault) where
  objects := h.objects
  tier := ⟨h.files calls fault, h.copies, h.minFree⟩
  stats := h.stats

end Unseen

/-! ## Verdicts -/

/-- How an action can end, by the status of its answer and the state it leaves. -/
inductive Verdict (w : Surroundings) (action : Action) (s : Service) (status : Nat)
    (s' : Service) : Prop
  | served (h : status = 200 ∨ status = 500)
  | unseen (h : Unseen s s')
  | noObject (key : String) (haction : action = .getObject key ∨ action = .removeObject key)
    (hstatus : status = 404) (htexts : s'.texts = s.texts)
    (hobjects : s.objects.KeepsLive [w.clock] s'.objects)
  | noText (key : TextKey) (haction : action = .getText key) (hstatus : status = 404)
    (h : Unseen (s.missed key) s')

/-! ### Objects -/

/-- Answers an object while the clock moves on: a sweep that is due reads it first, the object is
looked at next, and what is left to it is told last. -/
def getObjectDuring (sweepTime now later : UInt64) (key : String) (s : Service) :
    Response × Service :=
  let (found, objects) := s.objects.get sweepTime now key
  let s := { s with objects }
  match found with
  | none => (noObject key, s)
  | some value =>
    let millis := s.objects.remainingAt later key
    (.ok (.object key value (millis.map fun m => m.toNat / 1000)), s)

/-- While the clock stands still, the two ways to answer an object agree. -/
theorem getObject_eq_during (w : Surroundings) (key : String) (s : Service) :
    s.getObject w key = s.getObjectDuring w.clock w.clock w.clock key :=
  rfl

/-- An object is answered or not found, and either way what is live at both readings stays. -/
theorem getObjectDuring_cases (sweepTime now later : UInt64) (key : String) (s : Service) :
    let answer := s.getObjectDuring sweepTime now later key
    (answer.1.status = 200 ∨ answer.1.status = 404) ∧ answer.2.texts = s.texts ∧
      s.objects.KeepsLive [sweepTime, now] answer.2.objects := by
  have hlive := s.objects.keepsLive_get sweepTime now key
  unfold getObjectDuring
  rcases hget : s.objects.get sweepTime now key with ⟨_ | value, objects⟩ <;> rw [hget] at hlive
  · exact ⟨.inr rfl, rfl, hlive⟩
  · exact ⟨.inl rfl, rfl, hlive⟩

theorem verdict_getObject (w : Surroundings) (key : String) (s : Service) :
    Verdict w (.getObject key) s (s.getObject w key).1.status (s.getObject w key).2 := by
  rw [getObject_eq_during]
  obtain ⟨hserved | hstatus, htexts, hlive⟩ :=
    getObjectDuring_cases w.clock w.clock w.clock key s
  · exact .served (.inl hserved)
  · exact .noObject key (.inl rfl) hstatus htexts (hlive.mono (by simp))

theorem verdict_removeObject (w : Surroundings) (key : String) (s : Service) :
    Verdict w (.removeObject key) s (s.removeObject w key).1.status
      (s.removeObject w key).2 := by
  have hlive : (s.objects.removeAt w.clock key).1 = none → _ := s.objects.keepsLive_removeAt
  unfold removeObject
  rcases hremoved : s.objects.removeAt w.clock key with ⟨_ | value, objects⟩ <;>
    rw [hremoved] at hlive
  · exact .noObject key (.inr rfl) rfl rfl (hlive rfl)
  · exact .served (.inl rfl)

theorem verdict_putObject (w : Surroundings) (body : PutObject) (action : Action) (s : Service) :
    Verdict w action s (s.putObject w body).1.status (s.putObject w body).2 := by
  unfold putObject
  cases body.fault? with
  | some message => exact .unseen (.refl s)
  | none => exact .served (.inl rfl)

/-! ### Texts -/

/-- Work on the texts that has failed and left them alike, or has failed for the disk. -/
theorem verdict_failure {α : Type} {action : Action} {e : CacheError} {tier : FastTier}
    (h : FastTier.Alike tier s.texts.tier ∨ OnDisk (.error e : Outcome α)) :
    Verdict w action s (Response.failure e).status { s with texts := { s.texts with tier } } := by
  rcases h with halike | hdisk
  · exact .unseen (.of_alike halike)
  · obtain ⟨path, source, rfl⟩ := hdisk e rfl
    exact .served (.inr rfl)

theorem verdict_getText (w : Surroundings) (key : TextKey) (s : Service) :
    Verdict w (.getText key) s (s.getText w key).1.status (s.getText w key).2 := by
  have hfiles : (∀ text, (s.texts.tier.find w.free key).1 ≠ .ok (some text)) → _ :=
    FastTier.find_of_unfound
  have hlooked := TextFiles.looked_find s.texts.tier.files.tier key
  unfold getText TextCache.get
  cases TextName.checkKey key with
  | error e => exact .unseen (.refl s)
  | ok u =>
    simp only [FastTier.tier]
    rcases hfind : s.texts.tier.find w.free key with ⟨e | _ | text, tier⟩ <;> rw [hfind] at hfiles
    · obtain rfl := hfiles (by simp)
      exact .unseen (.of_looked hlooked)
    · -- it comes to the same if the miss is counted first and the files are looked at then
      obtain rfl := hfiles (by simp)
      exact .noText key rfl rfl (.of_looked (s := s.missed key) hlooked)
    · exact .served (.inl rfl)

/-- To ask for the age of a text is only to look at the files. -/
theorem unseen_textAge (key : TextKey) (s : Service) : Unseen s (s.textAge key).2 := by
  have hage := Unseen.onFiles (fun f => f.looked_age key) s
  unfold textAge
  rcases hr : s.texts.onTier (FastTier.onFiles fun f => f.age key) with ⟨e | age, texts⟩ <;>
    rw [hr] at hage
  · exact hage
  · -- the time is asked for once more, to be shown
    have hmodified := hage.trans (Unseen.onFiles (fun f => f.looked_modified key) _)
    simp only
    rcases hm : texts.onTier (FastTier.onFiles fun f => f.modified key) with
      ⟨e | modified, texts'⟩ <;> rw [hm] at hmodified
    · exact hmodified
    · cases age <;> exact hmodified

/-- A write drops the copy of its text, but a text that is refused has none. -/
theorem verdict_putText (hs : s.texts.tier.Confined) (w : Surroundings) (key : TextKey)
    (contents : String) (action : Action) :
    Verdict w action s (s.putText w key contents).1.status (s.putText w key contents).2 := by
  unfold putText TextCache.put
  obtain ⟨-, message, hrefused⟩ | ⟨hnames, hok⟩ := judges_checkKey key
  · rw [hrefused]
    exact .unseen (.refl s)
  rw [hok]
  simp only [FastTier.tier]
  have hwritten : FastTier.Alike (s.texts.tier.write key contents).2 s.texts.tier ∨
      OnDisk (s.texts.tier.write key contents).1 := by
    by_cases htype : BadType key.textType
    · -- of the bad names the reserved type is left, which the files refuse
      exact .inl (FastTier.write_refuses hs htype contents).2
    · have hgood : ¬ key.Refused := not_or.2 ⟨htype, fun hid => hnames (.inr hid)⟩
      exact .inr (TextFiles.onDisk_write hgood contents s.texts.tier.files.tier)
  rcases hwrite : s.texts.tier.write key contents with ⟨e | u, tier⟩ <;> rw [hwrite] at hwritten
  · exact verdict_failure hwritten
  · exact .served (.inl rfl)

theorem verdict_clearTexts (w : Surroundings) (textType : String) (action : Action) (s : Service) :
    Verdict w action s (s.clearTexts textType).1.status (s.clearTexts textType).2 := by
  unfold clearTexts TextCache.onTier
  have hcleared : FastTier.Alike (s.texts.tier.clear textType).2 s.texts.tier ∨
      OnDisk (s.texts.tier.clear textType).1 := by
    by_cases htype : BadType textType
    · exact .inl (FastTier.diskThenMemory_refuses (TextFiles.guards_clear textType) htype _
        s.texts.tier).2
    · exact .inr (FastTier.onDisk_diskThenMemory (TextFiles.onDisk_clear htype) _ s.texts.tier)
  rcases hclear : s.texts.tier.clear textType with ⟨e | count, tier⟩ <;> rw [hclear] at hcleared
  · exact verdict_failure hcleared
  · exact .served (.inl rfl)

/-! ### Requests -/

theorem verdict_perform (hs : s.texts.tier.Confined) (w : Surroundings) (r : ρ)
    (action : Action) :
    Verdict w action s (s.perform web w r action).1.status (s.perform web w r action).2 := by
  cases action with
  | putObject =>
    simp only [perform]
    cases web.putObject r with
    | error refusal => exact .unseen (.refl s)
    | ok body => exact verdict_putObject w body _ s
  | getObject key => exact verdict_getObject w key s
  | removeObject key => exact verdict_removeObject w key s
  | guarantee key =>
    simp only [perform]
    cases web.guarantee r with
    | error refusal => exact .unseen (.refl s)
    | ok body => exact .served (.inl rfl)
  | resetObjects | sweep => exact .served (.inl rfl)
  | clearTexts textType => exact verdict_clearTexts w textType _ s
  | getText key => exact verdict_getText w key s
  | putText key =>
    simp only [perform]
    cases web.text r with
    | error refusal => exact .unseen (.refl s)
    | ok contents => exact verdict_putText hs w key contents _
  | textAge key => exact .unseen (unseen_textAge key s)
  | stats | health => exact .unseen (.refl s)

/-- A request is refused before it reaches the service, or an action is done for it, whose status it
is answered with. -/
theorem respondIn_cases (web : Framework ρ) (w : Surroundings) (r : ρ) (s : Service) :
    (s.respondIn web w r).2 = s ∨ ∃ action, web.action r = .ok action ∧
      (s.respondIn web w r).1.status = (s.perform web w r action).1.status ∧
      (s.respondIn web w r).2 = (s.perform web w r action).2 := by
  unfold respondIn
  cases haction : web.action r with
  | error refusal => exact .inl rfl
  | ok action => exact .inr ⟨action, rfl, web.status_sent r _, rfl⟩

/-- A request that the framework refuses is unseen, and any other one ends as what it asks for can
end. -/
theorem verdict_respondIn (hs : s.texts.tier.Confined) (w : Surroundings) (r : ρ) :
    Unseen s (s.respondIn web w r).2 ∨ ∃ action, web.action r = .ok action ∧
      Verdict w action s (s.respondIn web w r).1.status (s.respondIn web w r).2 := by
  rcases respondIn_cases web w r s with hsame | ⟨action, haction, hstatus, hafter⟩
  · rw [hsame]
    exact .inl (.refl s)
  · rw [hstatus, hafter]
    exact .inr ⟨action, haction, verdict_perform hs w r action⟩

/-! ## States that are reached -/

/-- An action is a whole operation on the texts, or leaves the copies alone. -/
theorem tier_perform (web : Framework ρ) (w : Surroundings) (r : ρ) (action : Action)
    (s : Service) :
    (s.perform web w r action).2.texts.tier.memory.entries = s.texts.tier.memory.entries ∨
      ∃ operation,
        (s.perform web w r action).2.texts.tier = (s.texts.tier.perform w.free operation).2 := by
  cases action with
  -- requests for objects leave the texts alone
  | putObject =>
    simp only [perform]
    cases web.putObject r with
    | error refusal => exact .inl rfl
    | ok body =>
      simp only [putObject]
      cases body.fault? <;> exact .inl rfl
  | getObject key =>
    simp only [perform, getObject]
    cases (s.objects.get w.clock w.clock key).1 <;> exact .inl rfl
  | removeObject key =>
    simp only [perform, removeObject]
    cases (s.objects.removeAt w.clock key).1 <;> exact .inl rfl
  | guarantee key =>
    simp only [perform]
    cases web.guarantee r <;> exact .inl rfl
  | resetObjects | sweep | stats | health => exact .inl rfl
  -- requests for texts are operations of the tier, unless their names are refused
  | clearTexts textType =>
    refine .inr ⟨.clear textType, ?_⟩
    simp only [perform, clearTexts, FastTier.perform, TextCache.onTier]
    cases (s.texts.tier.clear textType).1 <;> rfl
  | getText key =>
    simp only [perform, getText, TextCache.get]
    cases TextName.checkKey key with
    | error e => exact .inl rfl
    | ok u =>
      refine .inr ⟨.get key, ?_⟩
      simp only [FastTier.tier, FastTier.perform]
      rcases (s.texts.tier.find w.free key).1 with e | _ | text <;> rfl
  | putText key =>
    simp only [perform]
    cases web.text r with
    | error refusal => exact .inl rfl
    | ok contents =>
      simp only [putText, TextCache.put]
      cases TextName.checkKey key with
      | error e => exact .inl rfl
      | ok u =>
        refine .inr ⟨.put key contents, ?_⟩
        simp only [FastTier.tier, FastTier.perform]
        cases (s.texts.tier.write key contents).1 <;> rfl
  | textAge key => exact .inl (unseen_textAge key s).copies

/-- No request makes a copy of a text with bad names. -/
theorem confined_respondIn (hs : s.texts.tier.Confined) (w : Surroundings) (r : ρ) :
    (s.respondIn web w r).2.texts.tier.Confined := by
  rcases respondIn_cases web w r s with hsame | ⟨action, -, -, hafter⟩
  · rwa [hsame]
  rw [hafter]
  rcases tier_perform web w r action s with hcopies | ⟨operation, htier⟩
  · exact hs.of_entries_eq hcopies
  · rw [htier]
    exact FastTier.confined_perform w.free operation hs

/-- A service with any objects, over texts of which anything was asked by any number of callers, and
which has answered requests since. -/
def reached (web : Framework ρ) (objects : ObjectStore String String) (files : DiskCache)
    (minFree : Double) (moves : List TextSteps.Move) (earlier : List (Surroundings × ρ)) :
    Service :=
  let texts := (FastTier.inSteps.after { files, minFree } moves).cache
  (answersOf (serve web) earlier { objects, texts }).2

/-- No service that is reached has a copy of a text with bad names. -/
theorem confined_reached (web : Framework ρ) (objects : ObjectStore String String)
    (files : DiskCache) (minFree : Double) (moves : List TextSteps.Move)
    (earlier : List (Surroundings × ρ)) :
    (reached web objects files minFree moves earlier).texts.tier.Confined := by
  have hempty : FastTier.Confined { files, minFree } := by
    intro key text hcopy
    simp at hcopy
  have htexts := (FastTier.inSteps_keeps_confined.after (fun _ _ h => h.of_entries_eq rfl)
    hempty moves).1
  exact answersOf_keeps (P := fun s : Service => s.texts.tier.Confined)
    (fun request _ s hs => confined_respondIn hs request.1 request.2) htexts

/-- Whatever was asked of a service before, and whatever framework takes requests apart: a request
that is answered with a status from 400 to 499 other than 404 goes unseen, and no later requests are
answered otherwise for it, whatever faults the disk has then. With 404 a request goes unseen too,
unless it has asked for an object or a text that is not there. For an object, the texts are the same
and so are all objects that are live at the reading of the clock, and no object is new or another.
For a text, nothing is seen but the miss that was counted. Should the clock move on while an object
is asked for, the objects stay that are live at both readings. -/
theorem refusals_unseen (web : Framework ρ) (objects : ObjectStore String String)
    (files : DiskCache) (minFree : Double) (moves : List TextSteps.Move)
    (earlier : List (Surroundings × ρ)) (w : Surroundings) (r : ρ) :
    let s := reached web objects files minFree moves earlier
    let (answer, s') := s.respondIn web w r
    (400 ≤ answer.status ∧ answer.status < 500 ∧ answer.status ≠ 404 →
      Unseen s s' ∧ ∀ calls fault later,
        (answersOf (serve web) later (s'.facing calls fault)).1 =
          (answersOf (serve web) later (s.facing calls fault)).1) ∧
    (answer.status = 404 →
      Unseen s s' ∨
      (∃ key, (web.action r = .ok (.getObject key) ∨ web.action r = .ok (.removeObject key)) ∧
        s'.texts = s.texts ∧ s.objects.KeepsLive [w.clock] s'.objects) ∨
      ∃ key, web.action r = .ok (.getText key) ∧ Unseen (s.missed key) s') ∧
    ∀ sweepTime now later key,
      let (_, s') := s.getObjectDuring sweepTime now later key
      s'.texts = s.texts ∧ s.objects.KeepsLive [sweepTime, now] s'.objects := by
  intro s
  have hs : s.texts.tier.Confined := confined_reached web objects files minFree moves earlier
  have hverdict : _ ∨ ∃ action, web.action r = .ok action ∧ _ := verdict_respondIn hs w r
  rcases hr : s.respondIn web w r with ⟨answer, s'⟩
  simp only [hr] at hverdict
  refine ⟨?_, ?_, ?_⟩
  · -- of the verdicts only an unseen refusal has such a status
    rintro ⟨hge, hlt, hne⟩
    have hunseen : Unseen s s' := by
      rcases hverdict with hunseen | ⟨action, -, hverdict⟩
      · exact hunseen
      cases hverdict with
      | served hstatus => omega
      | unseen hunseen => exact hunseen
      | noObject key haction hstatus => exact absurd hstatus hne
      | noText key haction hstatus => exact absurd hstatus hne
    exact ⟨hunseen, fun calls fault later => (hunseen.same calls fault).answers later⟩
  · -- what is missing was looked for, and a look at the objects can sweep
    intro hmissing
    rcases hverdict with hunseen | ⟨action, hroute, hverdict⟩
    · exact .inl hunseen
    cases hverdict with
    | served hstatus => omega
    | unseen hunseen => exact .inl hunseen
    | noObject key haction hstatus htexts hlive =>
      refine .inr (.inl ⟨key, ?_, htexts, hlive⟩)
      exact haction.imp (fun h => by rw [hroute, h]) fun h => by rw [hroute, h]
    | noText key haction hstatus hunseen =>
      exact .inr (.inr ⟨key, by rw [hroute, haction], hunseen⟩)
  · exact fun sweepTime now later key => (getObjectDuring_cases sweepTime now later key s).2

/-- The reserved type is refused by the files alone, when the text is about to be written. -/
example (w : Surroundings) (s : Service) :
    (s.putText w ⟨TextName.staging, "a"⟩ "text").1.status = 400 :=
  rfl

end Service
end CacheService
