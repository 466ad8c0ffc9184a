import CacheService.Proofs.TextStore.Callers

/-!
# Reads are counted exactly once

After any requests to a cache of texts, made one after another or side by side, the counters stand
for the reads that have come to an end without a failure and for nothing else (`reads_counted`). A
read that finds no text counts as a miss also if making or writing one fails afterwards.

The counters of the files below copies in memory are never touched.
-/

namespace CacheService

/-! ## What was read -/

/-- The read that a request was, going by its answer: its type, and whether a text was found. A
text is made just if none was found. Failed reads count for nothing. -/
def TextRequest.readOf : TextRequest → TextAnswer → Option (String × Bool)
  | .get key, .found (.ok found) => some (key.textType, found.isSome)
  | .getLines key, .lines (.ok found) => some (key.textType, found.isSome)
  | .getOrInsert key _, .supplied ⟨_, true⟩ => some (key.textType, false)
  | .getOrInsert key _, .supplied ⟨.ok _, false⟩ => some (key.textType, true)
  | _, _ => none

/-- A request that reads no text was no read, whatever it has answered. -/
theorem TextRequest.readOf_eq_none {request : TextRequest} (h : request.read? = none)
    (answer : TextAnswer) : request.readOf answer = none := by
  cases request <;> first | rfl | cases h

variable {σ : Type}

/-! ## One request after another -/

/-- Counts the read that has ended, if there is one. -/
def Stats.recordRead (s : Stats) : Option (String × Bool) → Stats
  | some read => s.record read.1 read.2
  | none => s

namespace TextCache

/-- A `get` counts one read, unless it fails. -/
theorem stats_get (t : TextTier σ) (key : TextKey) (c : TextCache σ) :
    (c.get t key).2.stats =
      c.stats.recordRead
        ((c.get t key).1.toOption.map fun found => (key.textType, found.isSome)) := by
  unfold get
  cases TextName.checkKey key with
  | error e => rfl
  | ok => rcases t.find key c.tier with ⟨e | found, tier⟩ <;> rfl

/-- The counters change by the read that a request was, going by its answer. -/
theorem stats_answer (s : TextService σ) (request : TextRequest) (c : TextCache σ) :
    (c.answer s request).2.stats =
      c.stats.recordRead (request.readOf (c.answer s request).1) := by
  cases request with
  | get key =>
    have hget := stats_get s.toTextTier key c
    simp only [answer, Prod.map_fst, Prod.map_snd, id_eq]
    rw [hget]
    cases (c.get s.toTextTier key).1 <;> rfl
  | getLines key =>
    have hget := stats_get s.toTextTier key c
    simp only [answer, getLines, Prod.map_apply, id_eq]
    rw [hget]
    rcases (c.get s.toTextTier key).1 with e | _ | text <;> rfl
  | getOrInsert key make =>
    have hget := stats_get s.toTextTier key c
    simp only [answer, getOrInsert]
    rcases hc : c.get s.toTextTier key with ⟨e | _ | text, c'⟩ <;> rw [hc] at hget
    · exact hget
    · -- a miss, whatever becomes of the text that is made
      cases make <;> exact hget
    · exact hget
  | put key text =>
    simp only [answer, put]
    cases TextName.checkKey key <;> rfl
  | _ => rfl

def ask (asked : TextService σ × TextRequest) (c : TextCache σ) : TextAnswer × TextCache σ :=
  c.answer asked.1 asked.2

/-- The reads among requests, going by the answers. -/
def reads (asked : List (TextService σ × TextRequest)) (answers : List TextAnswer) :
    List (String × Bool) :=
  (asked.zip answers).filterMap fun one => one.1.2.readOf one.2

/-- Counters that stand for the reads before stand for all reads afterwards. -/
theorem counts_answersOf (asked : List (TextService σ × TextRequest)) {c : TextCache σ}
    {before : List (String × Bool)} (h : c.stats.Counts before before) :
    (answersOf ask asked c).2.stats.Counts (reads asked (answersOf ask asked c).1 ++ before)
      (reads asked (answersOf ask asked c).1 ++ before) := by
  induction asked generalizing c before with
  | nil => exact h
  | cons one rest ih =>
    have hstats := stats_answer one.1 one.2 c
    simp only [answersOf, reads, List.zip_cons_cons, List.filterMap_cons, ask]
    cases hread : one.2.readOf (c.answer one.1 one.2).1 with
    | none =>
      rw [hread] at hstats
      exact ih (hstats ▸ h)
    | some read =>
      have hcounted : (c.answer one.1 one.2).2.stats.Counts (read :: before) (read :: before) := by
        rw [hstats, hread]
        exact h.record read.1 read.2
      -- the new read comes before those of the rest, and after those from before
      exact (ih hcounted).perm List.perm_middle.symm List.perm_middle.symm

end TextCache

/-! ## Requests side by side -/

namespace TextSteps

variable {S : TextSteps σ}

namespace Progress

/-- The request that has come so far. -/
def request : S.Progress → TextRequest
  | .called request => request
  | .finding read _ | .counting read _ | .adding read _ => read.request
  | .making key make => .getOrInsert key make
  | .writing write _ => write.request
  | .working work _ => work.request
  | .answered request _ => request

/-- The read of a request, once it is counted under its type. A text is only made and written for a
read that has found none. -/
def typed? : S.Progress → Option (String × Bool)
  | .adding read found => some (read.key.textType, found.isSome)
  | .making key _ => some (key.textType, false)
  | .writing write _ => if write.made then some (write.key.textType, false) else none
  | .answered request answer => request.readOf answer
  | .called _ | .finding _ _ | .counting _ _ | .working _ _ => none

/-- Whether a read is counted under its type, and not yet among all reads. -/
def isAdding : S.Progress → Bool
  | .adding _ _ => true
  | _ => false

/-- The read of a request, once it is counted in full. -/
def added? (p : S.Progress) : Option (String × Bool) :=
  if p.isAdding then none else p.typed?

end Progress

/-- What a step of a request does to the counters. -/
inductive Tallies (p next : S.Progress) (s : Stats) : Stats → Prop
  | nothing (htyped : next.typed? = p.typed?) (hadded : next.added? = p.added?) : Tallies p next s s
  | type (t : String) (found : Bool) (hbefore : p.typed? = none)
      (hafter : next.typed? = some (t, found)) (hadded : next.added? = p.added?) :
      Tallies p next s (s.recordType t found)
  | total (t : String) (found : Bool) (htyped : next.typed? = p.typed?) (hbefore : p.added? = none)
      (hafter : next.added? = some (t, found)) : Tallies p next s (s.recordTotal found)

/-- A read that is not counted under its type is not counted in the totals. -/
theorem Progress.added?_of_typed? {p : S.Progress} (h : p.typed? = none) : p.added? = none := by
  rw [added?, h, ite_self]

/-- A step that leads from no counted read to none. -/
theorem Tallies.of_none {p next : S.Progress} {s : Stats} (hp : p.typed? = none)
    (hnext : next.typed? = none) : Tallies p next s s :=
  .nothing (hnext.trans hp.symm)
    ((Progress.added?_of_typed? hnext).trans (Progress.added?_of_typed? hp).symm)

/-- A read is counted under its type as soon as it has ended, unless it has failed. -/
theorem typed?_afterRead (read : TextRead) (outcome : Outcome (Option String)) :
    (S.afterRead read outcome).typed? =
      outcome.toOption.map fun found => (read.key.textType, found.isSome) := by
  rcases read with ⟨key, _ | _ | make⟩ <;> rcases outcome with e | _ | text <;> rfl

theorem isAdding_afterRead (read : TextRead) (outcome : Outcome (Option String)) :
    (S.afterRead read outcome).isAdding = false := by
  rcases read with ⟨key, _ | _ | make⟩ <;> rcases outcome with e | _ | text <;> rfl

theorem typed?_begin (request : TextRequest) : (S.begin request).typed? = none := by
  rcases request.kinds with ⟨read, rfl⟩ | ⟨key, text, rfl⟩ | ⟨work, rfl⟩
  · rw [begin_read, beginRead]
    split
    · rw [typed?_afterRead]
      rfl
    · rfl
  · simp only [begin]
    split <;> rfl
  · rw [begin_work]
    rfl

/-- A step counts a read under its type, or among all reads, or it leaves the counters alone and the
request where it was as to counting. -/
theorem tallies_advance (free : Double) (p : S.Progress) (c : TextCache σ) :
    Tallies p (S.advance free (p, c)).1 c.stats (S.advance free (p, c)).2.stats := by
  cases p with
  | called request => exact .of_none rfl (typed?_begin request)
  | finding read stage =>
    simp only [advance]
    split
    · exact .of_none rfl (typed?_afterRead read _)
    · exact .of_none rfl rfl
    · exact .of_none rfl rfl
  | counting read found => exact .type _ _ rfl rfl rfl
  | adding read found =>
    have htyped := typed?_afterRead (S := S) read (.ok found)
    refine .total read.key.textType found.isSome htyped rfl ?_
    show (S.afterRead read (.ok found)).added? = _
    rw [Progress.added?, isAdding_afterRead, htyped]
    rfl
  | making key make => cases make <;> exact .nothing rfl rfl
  | writing write stage =>
    simp only [advance]
    split
    · -- a text that was made was counted as a miss before
      rcases write with ⟨key, text, _ | _⟩ <;> exact .nothing rfl rfl
    · exact .nothing rfl rfl
  | working work stage =>
    simp only [advance]
    split
    · exact .of_none rfl (TextRequest.readOf_eq_none (by cases work <;> rfl) _)
    · exact .of_none rfl rfl
  | answered request answer => exact .nothing rfl rfl

/-! ### What a request is and what it is not -/

/-- On its way a request stays the one that it is. -/
theorem request_afterRead (read : TextRead) (outcome : Outcome (Option String)) :
    (S.afterRead read outcome).request = read.request := by
  rcases read with ⟨key, _ | _ | make⟩ <;> rcases outcome with e | _ | text <;> rfl

theorem request_begin (request : TextRequest) : (S.begin request).request = request := by
  rcases request.kinds with ⟨read, rfl⟩ | ⟨key, text, rfl⟩ | ⟨work, rfl⟩
  · rw [begin_read, beginRead]
    split
    · exact request_afterRead read _
    · rfl
  · simp only [begin]
    split <;> rfl
  · rw [begin_work]
    rfl

/-- A step goes on with the same request. -/
theorem request_advance (free : Double) (p : S.Progress) (c : TextCache σ) :
    (S.advance free (p, c)).1.request = p.request := by
  cases p with
  | called request => exact request_begin request
  | finding read stage =>
    simp only [advance]
    split
    · exact request_afterRead read _
    · rfl
    · rfl
  | adding read found => exact request_afterRead read _
  | making key make => cases make <;> rfl
  | writing write stage =>
    simp only [advance]
    split <;> rfl
  | working work stage =>
    simp only [advance]
    split <;> rfl
  | counting read found => rfl
  | answered request answer => rfl

/-- The steps of requests that read nothing change no counter. -/
theorem stats_advance_of_no_read {p : S.Progress} (h : p.request.read? = none) (free : Double)
    (c : TextCache σ) : (S.advance free (p, c)).2.stats = c.stats := by
  cases p with
  | counting read found =>
    rw [Progress.request, TextRead.read?_request] at h
    cases h
  | adding read found =>
    rw [Progress.request, TextRead.read?_request] at h
    cases h
  | finding read stage =>
    simp only [advance]
    split <;> rfl
  | making key make => cases make <;> rfl
  | writing write stage =>
    simp only [advance]
    split <;> rfl
  | working work stage =>
    simp only [advance]
    split <;> rfl
  | called request => rfl
  | answered request answer => rfl

/-! ### Crowds -/

namespace Crowd

/-- The reads that are counted under their types. -/
def typed (c : S.Crowd) : List (String × Bool) :=
  c.callers.filterMap Progress.typed?

/-- The reads that are counted in full. -/
def added (c : S.Crowd) : List (String × Bool) :=
  c.callers.filterMap Progress.added?

variable {α β : Type} {f : α → Option β} {l : List α} {i : Nat} {a b : α}

theorem set_split (ha : l[i]? = some a) (b : α) :
    ∃ front back, l = front ++ a :: back ∧ l.set i b = front ++ b :: back := by
  obtain ⟨hi, rfl⟩ := List.getElem?_eq_some_iff.1 ha
  obtain ⟨front, back, hl, -, hset⟩ := List.exists_of_set hi
  exact ⟨front, back, hl, hset⟩

/-- An entry that counts for as much as the one before leaves the list as it was. -/
theorem filterMap_set_of_eq (ha : l[i]? = some a) (hf : f b = f a) :
    (l.set i b).filterMap f = l.filterMap f := by
  obtain ⟨front, back, hl, hset⟩ := set_split ha b
  rw [hset, hl]
  simp only [List.filterMap_append, List.filterMap_cons, hf]

/-- An entry that counts for something in the place of one that does not. -/
theorem filterMap_set_of_none {r : β} (ha : l[i]? = some a) (hbefore : f a = none)
    (hafter : f b = some r) : ((l.set i b).filterMap f).Perm (r :: l.filterMap f) := by
  obtain ⟨front, back, hl, hset⟩ := set_split ha b
  rw [hset, hl]
  simp only [List.filterMap_append, List.filterMap_cons, hbefore, hafter]
  exact List.perm_middle

/-- A move counts the read that it brings on, and no other. -/
theorem counts_move {c : S.Crowd} (h : c.cache.stats.Counts c.typed c.added) (m : Move) :
    (c.move m).cache.stats.Counts (c.move m).typed (c.move m).added := by
  cases m with
  | call request =>
    have htyped : (c.move (.call request)).typed = c.typed := by
      simp [move, typed, Progress.typed?]
    have hadded : (c.move (.call request)).added = c.added := by
      simp [move, added, Progress.added?, Progress.typed?]
    rw [htyped, hadded]
    exact h
  | outside change => exact h
  | advance number free =>
    simp only [move]
    split
    · exact h
    · next p hp =>
      have htally := tallies_advance free p c.cache
      simp only [typed, added]
      -- all that matters of the step is how it changes the caller and the counters
      generalize S.advance free (p, c.cache) = x at htally ⊢
      rcases x with ⟨next, cache, stats⟩
      dsimp only at htally ⊢
      cases htally with
      | nothing htyped hadded =>
        rw [filterMap_set_of_eq hp htyped, filterMap_set_of_eq hp hadded]
        exact h
      | type t found hbefore hafter hadded =>
        rw [filterMap_set_of_eq hp hadded]
        exact (h.recordType t found).perm (filterMap_set_of_none hp hbefore hafter) (.refl _)
      | total t found htyped hbefore hafter =>
        rw [filterMap_set_of_eq hp htyped]
        exact (h.recordTotal t found).perm (.refl _) (filterMap_set_of_none hp hbefore hafter)

end Crowd

/-- After any moves the counters stand for the reads that have come so far. -/
theorem counts_after (tier : σ) (moves : List Move) :
    (S.after tier moves).cache.stats.Counts (S.after tier moves).typed
      (S.after tier moves).added := by
  induction moves using List.reverseRecOn with
  | nil => exact .start
  | append_singleton front m ih =>
    rw [after_concat]
    exact Crowd.counts_move ih m

/-- Reads are counted in full once no read is just being counted. -/
theorem Crowd.added_eq_typed {c : S.Crowd} (h : ∀ p ∈ c.callers, p.isAdding = false) :
    c.added = c.typed := by
  apply List.filterMap_congr
  intro p hp
  rw [Progress.added?, h p hp]
  rfl

end TextSteps

/-! ## The files below copies in memory -/

namespace FastTier

/-- The counters of the files below a tier with copies are not used. -/
theorem files_stats_step (free : Double) (stage : Stage) (t : FastTier) :
    (step free stage t).2.files.stats = t.files.stats := by
  cases stage with
  | beginning operation =>
    cases operation with
    | get key =>
      simp only [step]
      split <;> rfl
    | _ => rfl
  | reading key stamp =>
    simp only [step]
    split
    · next h => rw [← congrArg (fun x => x.2.files.stats) h]; rfl
    · next h => rw [← congrArg (fun x => x.2.files.stats) h]; rfl
  | _ => rfl

/-- No step on both tiers counts for the files alone. -/
theorem inSteps_keeps_files_stats (stats : Stats) :
    inSteps.Keeps (fun t => t.files.stats = stats) (fun _ => True) (fun _ => True)
      (Sum.elim (fun _ => True) fun _ => True) :=
  inSteps_keeps (fun _ => trivial)
    (fun free g t _ ht => ⟨trivial, (files_stats_step free g t).trans ht⟩) fun _ _ ht => ht

end FastTier

/-! ## All reads -/

/-- After requests one after another, to a tier that may be different each time, the counters stand
for the reads that have succeeded. Side by side they do so too, whatever the steps of the tier are:
at any time those of types stand for the reads that are counted by type, and the totals for those
that are counted in full, which are the same once no read is just being counted. Steps go on with
the request that was made, and if it reads nothing, they change no counter. With nobody in between,
the steps of texts in files, with or without copies in memory, are what the tier does at once; and
where there are copies, the files count nothing. -/
theorem reads_counted :
    (∀ {σ : Type} (tier : σ) (asked : List (TextService σ × TextRequest)),
      (answersOf TextCache.ask asked { tier }).2.stats.Exact
        (TextCache.reads asked (answersOf TextCache.ask asked { tier }).1)) ∧
    (∀ {σ : Type} (S : TextSteps σ) (tier : σ) (moves : List TextSteps.Move),
      (S.after tier moves).cache.stats.Counts (S.after tier moves).typed
          (S.after tier moves).added ∧
        ((∀ p ∈ (S.after tier moves).callers, p.isAdding = false) →
          (S.after tier moves).cache.stats.Exact (S.after tier moves).typed)) ∧
    (∀ {σ : Type} (S : TextSteps σ) (free : Double) (p : S.Progress) (c : TextCache σ),
      (S.advance free (p, c)).1.request = p.request ∧
        (p.request.read? = none → (S.advance free (p, c)).2.stats = c.stats)) ∧
    (TextFiles.inSteps.Performs fun _ => TextFiles.service) ∧
    FastTier.inSteps.Performs FastTier.service ∧
    ∀ t : FastTier,
      (∀ asked : List (Double × TextRequest),
        (answersOf TextCache.ask (asked.map (Prod.map FastTier.service id))
          { tier := t }).2.tier.files.stats = t.files.stats) ∧
      ∀ moves, (FastTier.inSteps.after t moves).cache.tier.files.stats = t.files.stats := by
  refine ⟨?_, ?_, ?_, TextFiles.inSteps_performs, FastTier.inSteps_performs, ?_⟩
  · intro σ tier asked
    have hcounts := TextCache.counts_answersOf asked (c := { tier }) .start
    rw [List.append_nil] at hcounts
    exact hcounts.exact
  · intro σ S tier moves
    have hcounts := TextSteps.counts_after (S := S) tier moves
    refine ⟨hcounts, fun hnone => ?_⟩
    rw [TextSteps.Crowd.added_eq_typed hnone] at hcounts
    exact hcounts.exact
  · intro σ S free p c
    exact ⟨TextSteps.request_advance free p c,
      fun h => TextSteps.stats_advance_of_no_read h free c⟩
  · intro t
    have hkeeps := FastTier.inSteps_keeps_files_stats t.files.stats
    refine ⟨fun asked => ?_, fun moves => (hkeeps.after (fun _ _ ht => ht) rfl moves).1⟩
    -- what the steps keep is kept by each request on its own
    let kept (c : FastCache) : Prop := c.tier.files.stats = t.files.stats
    suffices hone : ∀ one ∈ asked.map (Prod.map FastTier.service id), ∀ c, kept c →
        kept (TextCache.ask one c).2 from answersOf_keeps hone rfl
    intro one hone c hc
    obtain ⟨⟨free, request⟩, -, rfl⟩ := List.mem_map.1 hone
    exact hkeeps.answer FastTier.inSteps_performs free request hc

end CacheService
