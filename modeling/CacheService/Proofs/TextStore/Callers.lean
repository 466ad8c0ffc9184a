import CacheService.Proofs.TextStore.Counting
import CacheService.Proofs.TextStore.Interleaving
import CacheService.Proofs.TextStore.Requests
import CacheService.Proofs.TextStore.Stepwise
import Mathlib.Data.List.Induction

/-!
# Callers of a cache of texts side by side

A crowd is a cache of texts with all the requests that were made to it, each as far as it has come.
In every move one request is made or takes one step, in any order, or somebody else changes the
files. What a tier does on its own behalf may itself be cut into any steps; a read is counted in two
more, by its type and in all. A request that nobody comes between is answered as the cache answers
it by itself (`advances_alone`).
-/

namespace CacheService

/-! ## Tiers in steps -/

/-- What can be asked of a tier besides finding and writing texts. -/
inductive TextWork where
  | remove (key : TextKey)
  | clear (textType : String)
  | clearAll
  | ids (textType : String)
  | textTypes
  | age (key : TextKey)
  | modified (key : TextKey)

def TextWork.request : TextWork → TextRequest
  | .remove key => .remove key
  | .clear textType => .clear textType
  | .clearAll => .clearAll
  | .ids textType => .ids textType
  | .textTypes => .textTypes
  | .age key => .age key
  | .modified key => .modified key

namespace TextService

variable {σ : Type}

def work (s : TextService σ) (w : TextWork) (tier : σ) : TextAnswer × σ :=
  match w with
  | .remove key => (s.remove key tier).map .removed id
  | .clear textType => (s.clear textType tier).map .cleared id
  | .clearAll => (s.clearAll tier).map .cleared id
  | .ids textType => (s.ids textType tier).map .named id
  | .textTypes => (s.textTypes tier).map .named id
  | .age key => (s.age key tier).map .aged id
  | .modified key => (s.modified key tier).map .dated id

/-- Work other than finding and writing is not counted. -/
theorem answer_work (s : TextService σ) (w : TextWork) (c : TextCache σ) :
    c.answer s w.request = c.onTier (s.work w) := by
  cases w <;> rfl

end TextService

/-- A tier whose operations are cut into steps. Others can change the files below it. -/
structure TextSteps (σ : Type) where
  find : Stepwise σ TextKey (Outcome (Option String))
  write : Stepwise σ (TextKey × String) (Outcome Unit)
  work : Stepwise σ TextWork TextAnswer
  outside : (TextFiles → TextFiles) → σ → σ

/-- The operations of a tier, in steps and at once. -/
structure TextSteps.Performs {σ : Type} (S : TextSteps σ) (service : Double → TextService σ) :
    Prop where
  find : S.find.Performs fun free key => (service free).find key
  write : S.write.Performs fun free text => (service free).write text.1 text.2
  work : S.work.Performs fun free => (service free).work

/-! ## Requests in progress -/

/-- What becomes of a text that is read: it is answered, or its lines are, or it is supplied to a
caller who can make one. -/
inductive Purpose where
  | text
  | lines
  | supply (make : Outcome String)

structure TextRead where
  key : TextKey
  purpose : Purpose

def TextRead.request (r : TextRead) : TextRequest :=
  match r.purpose with
  | .text => .get r.key
  | .lines => .getLines r.key
  | .supply make => .getOrInsert r.key make

theorem TextRead.read?_request (r : TextRead) : r.request.read? = some r.key := by
  rcases r with ⟨key, _ | _ | make⟩ <;> rfl

/-- A request is a read, or it puts a text, or it is other work for the tier. -/
theorem TextRequest.kinds (request : TextRequest) :
    (∃ read : TextRead, request = read.request) ∨ (∃ key text, request = .put key text) ∨
      ∃ work : TextWork, request = work.request := by
  cases request with
  | get key => exact .inl ⟨⟨key, .text⟩, rfl⟩
  | getLines key => exact .inl ⟨⟨key, .lines⟩, rfl⟩
  | getOrInsert key make => exact .inl ⟨⟨key, .supply make⟩, rfl⟩
  | put key text => exact .inr (.inl ⟨key, text, rfl⟩)
  | remove key => exact .inr (.inr ⟨.remove key, rfl⟩)
  | clear textType => exact .inr (.inr ⟨.clear textType, rfl⟩)
  | clearAll => exact .inr (.inr ⟨.clearAll, rfl⟩)
  | ids textType => exact .inr (.inr ⟨.ids textType, rfl⟩)
  | textTypes => exact .inr (.inr ⟨.textTypes, rfl⟩)
  | age key => exact .inr (.inr ⟨.age key, rfl⟩)
  | modified key => exact .inr (.inr ⟨.modified key, rfl⟩)

/-- A write of a text, which may have been made because none was found. -/
structure TextWrite where
  key : TextKey
  text : String
  made : Bool

namespace TextWrite

def request (w : TextWrite) : TextRequest :=
  if w.made then .getOrInsert w.key (.ok w.text) else .put w.key w.text

def answer (w : TextWrite) (outcome : Outcome Unit) : TextAnswer :=
  if w.made then .supplied ⟨outcome.map fun _ => w.text, true⟩ else .written outcome

end TextWrite

namespace TextSteps

variable {σ : Type}

/-- How far a request has come. -/
inductive Progress (S : TextSteps σ) where
  | called (request : TextRequest)
  | finding (read : TextRead) (stage : S.find.Stage)
  /-- the tier has answered, and the read is about to be counted under its type -/
  | counting (read : TextRead) (found : Option String)
  /-- the read is about to be counted among all reads -/
  | adding (read : TextRead) (found : Option String)
  | making (key : TextKey) (make : Outcome String)
  | writing (write : TextWrite) (stage : S.write.Stage)
  | working (work : TextWork) (stage : S.work.Stage)
  | answered (request : TextRequest) (answer : TextAnswer)

variable (S : TextSteps σ)

/-- Goes on after a read, which was counted unless it has failed. -/
def afterRead (read : TextRead) (outcome : Outcome (Option String)) : S.Progress :=
  match read.purpose, outcome with
  | .text, outcome => .answered read.request (.found outcome)
  | .lines, outcome => .answered read.request (.lines (TextCache.linesOf outcome))
  | .supply _, .error e => .answered read.request (.supplied ⟨.error e, false⟩)
  | .supply _, .ok (some text) => .answered read.request (.supplied ⟨.ok text, false⟩)
  | .supply make, .ok none => .making read.key make

/-- Begins a read, if the names are allowed. -/
def beginRead (read : TextRead) : S.Progress :=
  match TextName.checkKey read.key with
  | .error e => S.afterRead read (.error e)
  | .ok () => .finding read (S.find.start read.key)

def beginWork (work : TextWork) : S.Progress :=
  .working work (S.work.start work)

def begin : TextRequest → S.Progress
  | .get key => S.beginRead ⟨key, .text⟩
  | .getLines key => S.beginRead ⟨key, .lines⟩
  | .getOrInsert key make => S.beginRead ⟨key, .supply make⟩
  | .put key text =>
    match TextName.checkKey key with
    | .error e => .answered (.put key text) (.written (.error e))
    | .ok () => .writing ⟨key, text, false⟩ (S.write.start (key, text))
  | .remove key => S.beginWork (.remove key)
  | .clear textType => S.beginWork (.clear textType)
  | .clearAll => S.beginWork .clearAll
  | .ids textType => S.beginWork (.ids textType)
  | .textTypes => S.beginWork .textTypes
  | .age key => S.beginWork (.age key)
  | .modified key => S.beginWork (.modified key)

theorem begin_read (read : TextRead) : S.begin read.request = S.beginRead read := by
  rcases read with ⟨key, _ | _ | make⟩ <;> rfl

theorem begin_work (work : TextWork) : S.begin work.request = S.beginWork work := by
  cases work <;> rfl

/-- One step of a request. -/
def advance (free : Double) (x : S.Progress × TextCache σ) : S.Progress × TextCache σ :=
  let (p, c) := x
  match p with
  | .called request => (S.begin request, c)
  | .finding read stage =>
    match S.find.answer? stage with
    -- a read that has failed is over and not counted
    | some (.error e) => (S.afterRead read (.error e), c)
    | some (.ok found) => (.counting read found, c)
    | none =>
      let (stage, tier) := S.find.step free stage c.tier
      (.finding read stage, { c with tier })
  | .counting read found =>
    let stats := c.stats.recordType read.key.textType found.isSome
    (.adding read found, { c with stats })
  | .adding read found =>
    let stats := c.stats.recordTotal found.isSome
    (S.afterRead read (.ok found), { c with stats })
  | .making key make =>
    -- the maker runs while no lock is held, so others may have put a text meanwhile
    match make with
    | .error e => (.answered (.getOrInsert key make) (.supplied ⟨.error e, true⟩), c)
    | .ok text => (.writing ⟨key, text, true⟩ (S.write.start (key, text)), c)
  | .writing write stage =>
    match S.write.answer? stage with
    | some outcome => (.answered write.request (write.answer outcome), c)
    | none =>
      let (stage, tier) := S.write.step free stage c.tier
      (.writing write stage, { c with tier })
  | .working work stage =>
    match S.work.answer? stage with
    | some answer => (.answered work.request answer, c)
    | none =>
      let (stage, tier) := S.work.step free stage c.tier
      (.working work stage, { c with tier })
  | .answered _ _ => (p, c)

/-! ## Requests alone -/

/-- Steps of a request with nobody in between lead from one point to another. -/
def Leads (free : Double) (x y : S.Progress × TextCache σ) : Prop :=
  ∃ n, (S.advance free)^[n] x = y

variable {S} {free : Double} {x y z : S.Progress × TextCache σ}

theorem Leads.refl (x : S.Progress × TextCache σ) : S.Leads free x x :=
  ⟨0, rfl⟩

theorem Leads.trans (h : S.Leads free x y) (h' : S.Leads free y z) : S.Leads free x z := by
  obtain ⟨n, rfl⟩ := h
  obtain ⟨m, rfl⟩ := h'
  exact ⟨m + n, Function.iterate_add_apply _ m n x⟩

/-- A step in front of others. -/
theorem Leads.head (h : S.Leads free (S.advance free x) y) : S.Leads free x y :=
  .trans ⟨1, rfl⟩ h

/-- The steps of an operation are steps of the request that it belongs to. -/
theorem leads_of_advance {ι α : Type} (w : Stepwise σ ι α) (progress : w.Stage → S.Progress)
    (hnext : ∀ stage c, w.answer? stage = none → S.advance free (progress stage, c) =
      (progress (w.step free stage c.tier).1, { c with tier := (w.step free stage c.tier).2 }))
    (n : Nat) (stage : w.Stage) (c : TextCache σ) :
    S.Leads free (progress stage, c)
      (progress ((w.advance free)^[n] (stage, c.tier)).1,
        { c with tier := ((w.advance free)^[n] (stage, c.tier)).2 }) := by
  -- from the first step on, as later ones start from another stage and another cache
  induction n generalizing stage c with
  | zero => exact .refl _
  | succ n ih =>
    rw [Function.iterate_succ_apply]
    cases ha : w.answer? stage with
    | some answer =>
      -- the operation is over, and counting on does nothing
      have hstays : w.advance free (stage, c.tier) = (stage, c.tier) := by
        simp only [Stepwise.advance, ha]
      rw [hstays]
      exact ih stage c
    | none =>
      have hsteps : w.advance free (stage, c.tier) = w.step free stage c.tier := by
        simp only [Stepwise.advance, ha]
      rw [hsteps]
      apply Leads.head
      rw [hnext stage c ha]
      exact ih _ { c with tier := (w.step free stage c.tier).2 }

section Alone

variable {service : Double → TextService σ} (hS : S.Performs service)
include hS

/-- The steps of a read come to what the tier finds at once. -/
theorem leads_finding (read : TextRead) (c : TextCache σ) :
    S.Leads free (.finding read (S.find.start read.key), c)
      (S.afterRead read ((service free).find read.key c.tier).1,
        TextCache.settle { c with tier := ((service free).find read.key c.tier).2 } read.key
          ((service free).find read.key c.tier).1) := by
  obtain ⟨n, htier, hanswer⟩ := hS.find free read.key c.tier
  dsimp only at htier hanswer
  refine (leads_of_advance S.find (.finding read) ?_ n _ c).trans ?_
  · intro stage c hnone
    simp only [advance, hnone]
  · rw [htier]
    rcases hfound : (service free).find read.key c.tier with ⟨e | found, tier⟩ <;>
      rw [hfound] at hanswer
    · apply Leads.head
      simp only [advance, hanswer, TextCache.settle]
      exact .refl _
    · -- the read is counted in two steps
      apply Leads.head
      simp only [advance, hanswer]
      exact .head (.head (.refl _))

/-- The steps of a write come to what the tier writes at once. -/
theorem leads_writing (write : TextWrite) (c : TextCache σ) :
    S.Leads free (.writing write (S.write.start (write.key, write.text)), c)
      (.answered write.request
          (write.answer ((service free).write write.key write.text c.tier).1),
        { c with tier := ((service free).write write.key write.text c.tier).2 }) := by
  obtain ⟨n, htier, hanswer⟩ := hS.write free (write.key, write.text) c.tier
  refine (leads_of_advance S.write (.writing write) ?_ n _ c).trans ?_
  · intro stage c hnone
    simp only [advance, hnone]
  · rw [htier]
    apply Leads.head
    simp only [advance, hanswer]
    exact .refl _

/-- The steps of other work come to what the tier does at once. -/
theorem leads_working (work : TextWork) (c : TextCache σ) :
    S.Leads free (S.beginWork work, c)
      (.answered work.request (c.onTier ((service free).work work)).1,
        (c.onTier ((service free).work work)).2) := by
  obtain ⟨n, htier, hanswer⟩ := hS.work free work c.tier
  refine (leads_of_advance S.work (.working work) ?_ n _ c).trans ?_
  · intro stage c hnone
    simp only [advance, hnone]
  · rw [htier]
    apply Leads.head
    simp only [advance, hanswer]
    exact .refl _

/-- A read, from the check of its names on, comes to what `get` answers. -/
theorem leads_reading (read : TextRead) (c : TextCache σ) :
    S.Leads free (S.beginRead read, c)
      (S.afterRead read (c.get (service free).toTextTier read.key).1,
        (c.get (service free).toTextTier read.key).2) := by
  unfold beginRead TextCache.get
  cases TextName.checkKey read.key with
  | error e => exact .refl _
  | ok => exact leads_finding hS read c

/-- Steps with nobody in between bring any request to the answer of the cache by itself. -/
theorem advances_alone (request : TextRequest) (c : TextCache σ) :
    S.Leads free (.called request, c)
      (.answered request (c.answer (service free) request).1,
        (c.answer (service free) request).2) := by
  apply Leads.head
  rcases request.kinds with ⟨⟨key, purpose⟩, rfl⟩ | ⟨key, text, rfl⟩ | ⟨work, rfl⟩
  · cases purpose with
    | text => exact leads_reading hS ⟨key, .text⟩ c
    | lines => exact leads_reading hS ⟨key, .lines⟩ c
    | supply make =>
      refine (leads_reading hS ⟨key, .supply make⟩ c).trans ?_
      simp only [TextRead.request, TextCache.answer, TextCache.getOrInsert]
      rcases c.get (service free).toTextTier key with ⟨e | _ | text, c'⟩
      · exact .refl _
      · -- nothing was found, so a text is made and written
        apply Leads.head
        cases make with
        | error e => exact .refl _
        | ok text => exact leads_writing hS ⟨key, text, true⟩ c'
      · exact .refl _
  · simp only [advance, begin, TextCache.answer, TextCache.put]
    cases TextName.checkKey key with
    | error e => exact .refl _
    | ok => exact leads_writing hS ⟨key, text, false⟩ c
  · simp only [advance, begin_work, TextService.answer_work]
    exact leads_working hS work c

end Alone

/-! ## What steps keep -/

/-- Every step of a tier keeps a property of it, while the stages have properties of their own. -/
structure Keeps (S : TextSteps σ) (tier : σ → Prop) (finding : S.find.Stage → Prop)
    (writing : S.write.Stage → Prop) (working : S.work.Stage → Prop) : Prop where
  find : S.find.Keeps tier finding
  write : S.write.Keeps tier writing
  work : S.work.Keeps tier working

/-- The stage at which a request has arrived in the tier has the property for such stages. -/
def Progress.Has (finding : S.find.Stage → Prop) (writing : S.write.Stage → Prop)
    (working : S.work.Stage → Prop) : S.Progress → Prop
  | .finding _ stage => finding stage
  | .writing _ stage => writing stage
  | .working _ stage => working stage
  | _ => True

section Keeping

variable {tier : σ → Prop} {finding : S.find.Stage → Prop} {writing : S.write.Stage → Prop}
  {working : S.work.Stage → Prop}

/-- After a read the tier is left alone until a text is written. -/
theorem has_afterRead (read : TextRead) (outcome : Outcome (Option String)) :
    (S.afterRead read outcome).Has finding writing working := by
  unfold afterRead
  split <;> trivial

theorem Keeps.has_begin (h : S.Keeps tier finding writing working) (request : TextRequest) :
    (S.begin request).Has finding writing working := by
  rcases request.kinds with ⟨read, rfl⟩ | ⟨key, text, rfl⟩ | ⟨work, rfl⟩
  · rw [begin_read, beginRead]
    split
    · exact has_afterRead read _
    · exact h.find.start read.key
  · simp only [begin]
    split
    · trivial
    · exact h.write.start _
  · rw [begin_work]
    exact h.work.start work

/-- One step of a request keeps the property of the tier and that of its stages. -/
theorem Keeps.advance (h : S.Keeps tier finding writing working)
    (hx : x.1.Has finding writing working) (hc : tier x.2.tier) :
    (S.advance free x).1.Has finding writing working ∧ tier (S.advance free x).2.tier := by
  rcases x with ⟨p, c⟩
  cases p with
  | called request => exact ⟨h.has_begin request, hc⟩
  | finding read stage =>
    simp only [TextSteps.advance]
    split
    · exact ⟨has_afterRead read _, hc⟩
    · exact ⟨trivial, hc⟩
    · exact h.find.step free stage c.tier hx hc
  | counting read found => exact ⟨trivial, hc⟩
  | adding read found => exact ⟨has_afterRead read _, hc⟩
  | making key make =>
    cases make with
    | error e => exact ⟨trivial, hc⟩
    | ok text => exact ⟨h.write.start _, hc⟩
  | writing write stage =>
    simp only [TextSteps.advance]
    split
    · exact ⟨trivial, hc⟩
    · exact h.write.step free stage c.tier hx hc
  | working work stage =>
    simp only [TextSteps.advance]
    split
    · exact ⟨trivial, hc⟩
    · exact h.work.step free stage c.tier hx hc
  | answered request answer => exact ⟨trivial, hc⟩

/-- What every step keeps, the cache keeps when it answers by itself. -/
theorem Keeps.answer (h : S.Keeps tier finding writing working)
    {service : Double → TextService σ} (hS : S.Performs service) (free : Double)
    (request : TextRequest) {c : TextCache σ} (hc : tier c.tier) :
    tier (c.answer (service free) request).2.tier := by
  have hleads : S.Leads free (.called request, c) _ := advances_alone hS request c
  obtain ⟨n, hn⟩ := hleads
  have hkept : ∀ n, ((S.advance free)^[n] (.called request, c)).1.Has finding writing working ∧
      tier ((S.advance free)^[n] (.called request, c)).2.tier := by
    intro n
    induction n with
    | zero => exact ⟨trivial, hc⟩
    | succ n ih =>
      rw [Function.iterate_succ_apply']
      exact h.advance ih.1 ih.2
  have htier := (hkept n).2
  rwa [hn] at htier

end Keeping

/-! ## Crowds -/

variable (S)

structure Crowd where
  cache : TextCache σ
  /-- how far each request has come, in the order of the calls -/
  callers : List S.Progress := []

inductive Move where
  | call (request : TextRequest)
  /-- the request of that number takes a step, while so much memory is free -/
  | advance (number : Nat) (free : Double)
  /-- somebody else changes the files, or time goes by -/
  | outside (change : TextFiles → TextFiles)

variable {S}

/-- Makes a move. Requests that were not made cannot take a step. -/
def Crowd.move (c : S.Crowd) : Move → S.Crowd
  | .call request => { c with callers := c.callers ++ [.called request] }
  | .advance number free =>
    match c.callers[number]? with
    | none => c
    | some p =>
      let (next, cache) := S.advance free (p, c.cache)
      { cache, callers := c.callers.set number next }
  | .outside change => { c with cache := { c.cache with tier := S.outside change c.cache.tier } }

variable (S) in
/-- What moves lead to from a cache that nothing was asked of. -/
def after (tier : σ) (moves : List Move) : S.Crowd :=
  moves.foldl Crowd.move { cache := { tier } }

theorem after_concat (tier : σ) (moves : List Move) (m : Move) :
    S.after tier (moves ++ [m]) = (S.after tier moves).move m := by
  rw [after, List.foldl_append]
  rfl

/-- What every step keeps and nobody else breaks is kept in a crowd. -/
theorem Keeps.after {kept : σ → Prop} {finding : S.find.Stage → Prop}
    {writing : S.write.Stage → Prop} {working : S.work.Stage → Prop}
    (h : S.Keeps kept finding writing working)
    (houtside : ∀ change t, kept t → kept (S.outside change t)) {tier : σ} (htier : kept tier)
    (moves : List Move) :
    kept (S.after tier moves).cache.tier ∧
      ∀ p ∈ (S.after tier moves).callers, p.Has finding writing working := by
  induction moves using List.reverseRecOn with
  | nil => exact ⟨htier, fun _ hp => nomatch hp⟩
  | append_singleton front m ih =>
    rw [after_concat]
    obtain ⟨hkept, hcallers⟩ := ih
    cases m with
    | call request =>
      -- a request that was just made has not arrived in the tier
      refine ⟨hkept, fun p hp => ?_⟩
      rcases List.mem_append.1 hp with hp | hp
      · exact hcallers p hp
      · rw [List.mem_singleton.1 hp]
        trivial
    | outside change => exact ⟨houtside change _ hkept, hcallers⟩
    | advance number free =>
      simp only [Crowd.move]
      split
      · exact ⟨hkept, hcallers⟩
      · next p hp =>
        have hnext : (S.advance free (p, (S.after tier front).cache)).1.Has _ _ _ ∧ _ :=
          h.advance (hcallers p (List.mem_of_getElem? hp)) hkept
        refine ⟨hnext.2, fun q hq => ?_⟩
        -- the others stand where they stood
        rcases List.mem_or_eq_of_mem_set hq with hq | rfl
        · exact hcallers q hq
        · exact hnext.1

end TextSteps

/-! ## Tiers -/

/-- Texts in files, where every operation is one step. -/
def TextFiles.inSteps : TextSteps TextFiles where
  find := .atOnce fun key f => f.find key
  write := .atOnce fun text f => f.write text.1 text.2
  work := .atOnce TextFiles.service.work
  outside := id

/-- Every operation of texts in files is one step. -/
theorem TextFiles.inSteps_performs : TextFiles.inSteps.Performs fun _ => TextFiles.service where
  find := Stepwise.atOnce_performs _
  write := Stepwise.atOnce_performs _
  work := Stepwise.atOnce_performs _

namespace FastTier

def Answer.toText : Answer → TextAnswer
  | .found outcome => .found outcome
  | .written outcome => .written outcome
  | .removed outcome => .removed outcome
  | .cleared outcome => .cleared outcome

/-- The steps of operations that look into memory or change it. -/
abbrev stepwise {ι α : Type} (operation : ι → Operation) (answer? : Answer → Option α) :
    Stepwise FastTier ι α where
  Stage := Stage
  start i := .beginning (operation i)
  step := step
  answer?
    | .returned answer => answer? answer
    | _ => none

/-- An operation that has returned takes no more steps, so that counting on is no different. -/
theorem iterate_advance {ι α : Type} (operation : ι → Operation) (answer? : Answer → Option α)
    (free : Double) (n : Nat) (x : Stage × FastTier) :
    ((stepwise operation answer?).advance free)^[n] x = steps free n x.1 x.2 := by
  induction n generalizing x with
  | zero => rfl
  | succ n ih =>
    have hstep : (stepwise operation answer?).advance free x = step free x.1 x.2 := by
      rcases x with ⟨_ | _ | _ | _ | answer, t⟩
      case returned =>
        unfold Stepwise.advance
        split <;> rfl
      all_goals rfl
    rw [Function.iterate_succ_apply, ih, hstep]
    rfl

/-- The steps of operations end as their whole does, with the answer read in another way. -/
theorem stepwise_performs {ι α : Type} {operation : ι → Operation} {answer? : Answer → Option α}
    {act : Double → ι → FastTier → α × FastTier}
    (h : ∀ free i t, answer? (t.perform free (operation i)).1 = some (act free i t).1 ∧
      (t.perform free (operation i)).2 = (act free i t).2) :
    (stepwise operation answer?).Performs act := by
  intro free i t
  obtain ⟨hanswer, ht⟩ := h free i t
  have hsteps : ((stepwise operation answer?).advance free)^[3] (.beginning (operation i), t) =
      (.returned (t.perform free (operation i)).1, (t.perform free (operation i)).2) := by
    rw [iterate_advance, steps_alone]
  refine ⟨3, ?_, ?_⟩
  · rw [← ht]
    exact congrArg Prod.snd hsteps
  · rw [← hanswer]
    exact congrArg (fun x => (stepwise operation answer?).answer? x.1) hsteps

/-- Whether a piece of work drops copies, or else leaves the memory alone. -/
def dropping? : TextWork → Operation ⊕ TextWork
  | .remove key => .inl (.remove key)
  | .clear textType => .inl (.clear textType)
  | .clearAll => .inl .clearAll
  | work => .inr work

/-- Texts in files with copies in memory. The steps are those of the operations of the tier, and
names and times are asked for in one step. -/
def inSteps : TextSteps FastTier where
  find := stepwise .get fun
    | .found outcome => some outcome
    | _ => none
  write := stepwise (fun text => .put text.1 text.2) fun
    | .written outcome => some outcome
    | _ => none
  -- names and times are looked up on the disk alone
  work := .either dropping? (stepwise id fun answer => some answer.toText)
    (.atOnce fun work t => t.onFiles (TextFiles.service.work work))
  outside change t := (t.onFiles fun f => ((), change f)).2

/-- The steps of texts with copies end as the operations of the tier do. -/
theorem inSteps_performs : inSteps.Performs service where
  find := stepwise_performs fun _ _ _ => ⟨rfl, rfl⟩
  write := stepwise_performs fun _ _ _ => ⟨rfl, rfl⟩
  work := by
    have hdropping : (stepwise id fun answer => some answer.toText).Performs
        fun free operation t => (t.perform free operation).map Answer.toText id :=
      stepwise_performs fun _ _ _ => ⟨rfl, rfl⟩
    have hother := Stepwise.atOnce_performs fun (work : TextWork) (t : FastTier) =>
      t.onFiles (TextFiles.service.work work)
    have hact : (fun free => (service free).work) = fun free work =>
        Sum.elim (fun operation (t : FastTier) => (t.perform free operation).map Answer.toText id)
          (fun work t => t.onFiles (TextFiles.service.work work)) (dropping? work) := by
      funext free work
      cases work <;> rfl
    rw [hact]
    exact hdropping.either hother

/-- What every step on both tiers keeps, and what is done on the files alone. -/
theorem inSteps_keeps {kept : FastTier → Prop} {stage : Stage → Prop}
    (hbeginning : ∀ operation, stage (.beginning operation))
    (hstep : ∀ free g t, stage g → kept t → stage (step free g t).1 ∧ kept (step free g t).2)
    (hfiles : ∀ t (change : TextFiles → TextFiles), kept t →
      kept (t.onFiles fun f => ((), change f)).2) :
    inSteps.Keeps kept stage stage (Sum.elim stage fun _ => True) where
  find := ⟨fun _ => hbeginning _, hstep⟩
  write := ⟨fun _ => hbeginning _, hstep⟩
  work := by
    have hdropping : (stepwise id fun answer => some answer.toText).Keeps kept stage :=
      ⟨fun _ => hbeginning _, hstep⟩
    refine hdropping.either (.atOnce fun work t ht => ?_)
    exact hfiles t (fun f => (TextFiles.service.work work f).2) ht

end FastTier
end CacheService
