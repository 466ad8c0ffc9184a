import CacheService.Proofs.Lookup.FiniteMap
import CacheService.Proofs.Lookup.Misses

/-!
# Refreshing and starting over

A refresh meets outcomes: of the calls to the source, of the statement, of the rows and of closing
the cursor. `Handler.Meets` says of a newly built handler that it meets the same outcomes in its
first initial load. Then the refresh answers what that load answers and leaves the same table,
whatever the handler had loaded before, and the initial load is not repeated until the next refresh
(`refresh_starts_over`).
-/

namespace CacheService

namespace Handler

variable {σ τ α : Type}

/-! ## The same outcomes -/

/-- A new handler meets in its first initial load what another one would meet in the next load: the
same outcomes of the hooks, and the same answer of its service to the same statement, if the source
has one then. The answer is the refusal of the statement, or a cursor with its rows and failures. -/
structure Meets (h : Handler σ α) (s : Contents σ α) (fresh : Handler τ α) (state : τ) : Prop where
  policy : fresh.policy = h.policy
  name : fresh.source.name = h.source.name
  interpreter : fresh.source.interpreter = h.source.interpreter
  query : fresh.initialQuery (State.new state).toContents = h.initialQuery s
  before : fresh.source.before 1 = h.source.before (s.beforeCalls + 1)
  after : fresh.source.after 1 = h.source.after (s.afterCalls + 1)
  answer : ∀ sql, h.initialQuery s = some sql →
    (fresh.service.answer sql state).1 = (h.service.answer sql s.link.state).1

/-- A handler over the same source and service whose calls are counted from now on. -/
def rebuilt (h : Handler σ α) (s : Contents σ α) : Handler σ α where
  policy := h.policy
  source :=
    { h.source with
      fullQuery := fun call => h.source.fullQuery (s.queryCalls + call)
      seedQuery := fun call => h.source.seedQuery (s.queryCalls + call)
      addQuery := fun call => h.source.addQuery (s.queryCalls + call)
      before := fun call => h.source.before (s.beforeCalls + call)
      after := fun call => h.source.after (s.afterCalls + call) }
  service := h.service

/-- Whatever a handler has been through, a new one can meet the same outcomes. -/
theorem meets_rebuilt (h : Handler σ α) (s : Contents σ α) :
    h.Meets s (h.rebuilt s) s.link.state where
  policy := rfl
  name := rfl
  interpreter := rfl
  query := rfl
  before := rfl
  after := rfl
  answer := fun _ _ => rfl

namespace Meets

variable {h : Handler σ α} {s : Contents σ α} {fresh : Handler τ α} {state : τ}

/-- Both tell of a failing hook in the same words. -/
theorem hookFailure (hm : h.Meets s fresh state) (e : CacheError) :
    fresh.hookFailure e = h.hookFailure e := by
  unfold Handler.hookFailure
  rw [hm.name]

/-- The statement of the initial load yields the same. -/
theorem yieldOf (hm : h.Meets s fresh state) {sql : String}
    (hsql : h.initialQuery s = some sql) :
    fresh.yieldOf sql state = h.yieldOf sql s.link.state := by
  unfold Handler.yieldOf
  rw [hm.answer sql hsql, hm.interpreter]

/-- Both load the same entries, and end alike. -/
theorem initialYield (hm : h.Meets s fresh state) :
    fresh.initialYield (State.new state).toContents = h.initialYield s := by
  unfold Handler.initialYield
  have hbefore : fresh.source.before ((State.new state : State τ α).beforeCalls + 1) =
      h.source.before (s.beforeCalls + 1) := hm.before
  rw [hbefore, hm.policy, hm.query, hm.name]
  -- the hook decides whether the statement is executed at all
  cases h.source.before (s.beforeCalls + 1) with
  | some e => simp only [hm.hookFailure]
  | none =>
    cases hquery : h.initialQuery s with
    | some sql =>
      have hyield := hm.yieldOf hquery
      cases h.policy <;> exact hyield
    | none => cases h.policy <;> rfl

end Meets

/-! ## What a refresh leaves -/

/-- An attempt on an empty table leaves, under each key, what the last entry that it has stored
gives the key. -/
theorem Attempt.get?_of_empty {h : Handler σ α} {s s' : Contents σ α} {outcome : Outcome Unit}
    (ha : h.Attempt { s with table := .empty } outcome s') (key : Key) :
    s'.table.get? key = KeyTable.lastValue? (h.initialYield s).2 key := by
  rw [ha.table, KeyTable.get?_empty_insertMany]
  rfl

/-- Two attempts that meet the same outcomes, one of a handler that was used before and whose table
was emptied, and one of a new handler, end alike and leave the same table. -/
theorem Meets.attempts {h : Handler σ α} {s s' : Contents σ α} {fresh : Handler τ α} {state : τ}
    {t : Contents τ α} {outcome outcome' : Outcome Unit} (hm : h.Meets s fresh state)
    (ha : h.Attempt { s with table := .empty } outcome s')
    (hb : fresh.Attempt (State.new state).toContents outcome' t) :
    outcome = outcome' ∧ s'.table = t.table ∧ s'.beforeCalls = s.beforeCalls + t.beforeCalls ∧
      s'.afterCalls = s.afterCalls + t.afterCalls ∧
      s'.queryCalls = s.queryCalls + t.queryCalls ∧
      s'.link.executed = s.link.executed ++ t.link.executed := by
  have hyield : fresh.initialYield (State.new state).toContents =
      h.initialYield { s with table := .empty } := hm.initialYield
  have hafter : fresh.source.after ((State.new state : State τ α).afterCalls + 1) =
      h.source.after (s.afterCalls + 1) := hm.after
  have hbefore : fresh.source.before ((State.new state : State τ α).beforeCalls + 1) =
      h.source.before (s.beforeCalls + 1) := hm.before
  refine ⟨?_, ?_, ?_, ?_, ?_, ?_⟩
  · rw [ha.outcome, hb.outcome, hyield, hafter]
    simp only [hm.hookFailure]
  · rw [ha.table, hb.table, hyield]
    rfl
  · rw [ha.before, hb.before]
    rfl
  · rw [ha.after, hb.after, hyield]
    dsimp only [State.new]
    rw [Nat.zero_add]
  · rw [ha.queryCalls, hb.queryCalls, hbefore]
    dsimp only [State.new]
    rw [Nat.zero_add]
  · rw [ha.executed, hb.executed, hbefore, hm.query]
    rfl

/-! ## After a load -/

/-- The statement that a request executes when it meets a loaded table: that of the key that it
looks up, if the policy is lazy and the table lacks the key. -/
def fetches (h : Handler σ α) (s : State σ α) (r : Request α) : List String :=
  match h.policy, r.key? with
  | .lazy, some key => if (s.table.get? key).isNone then [h.addQuery s.toContents key] else []
  | _, _ => []

/-- Work that calls no hook, and executes statements. -/
structure Fetches (s s' : State σ α) (statements : List String) : Prop where
  beforeCalls : s'.beforeCalls = s.beforeCalls
  afterCalls : s'.afterCalls = s.afterCalls
  executed : s'.link.executed = s.link.executed ++ statements

theorem Fetches.refl (s : State σ α) : Fetches s s [] :=
  ⟨rfl, rfl, (List.append_nil _).symm⟩

theorem Fetches.trans {s s' s'' : State σ α} {front back : List String} (h : Fetches s s' front)
    (h' : Fetches s' s'' back) : Fetches s s'' (front ++ back) where
  beforeCalls := h'.beforeCalls.trans h.beforeCalls
  afterCalls := h'.afterCalls.trans h.afterCalls
  executed := by rw [h'.executed, h.executed, List.append_assoc]

variable {h : Handler σ α} {s : State σ α}

/-- To fetch a key costs one statement and calls no hook. -/
theorem fetches_fetch (h : Handler σ α) (key : Key) (s : State σ α) :
    Fetches s (h.fetch key s).2 [h.addQuery s.toContents key] := by
  obtain ⟨-, -, hexecuted, hbefore, hafter, -⟩ := h.load_yieldOf (h.addQuery s.toContents key)
    { s.toContents with queryCalls := s.queryCalls + 1 }
  simp only [fetch, addQuery] at hexecuted hbefore hafter ⊢
  rcases hload : h.load (h.source.addQuery (s.queryCalls + 1) key)
    { s.toContents with queryCalls := s.queryCalls + 1 } with ⟨e | u, contents⟩ <;>
    rw [hload] at hexecuted hbefore hafter <;> exact ⟨hbefore, hafter, hexecuted⟩

/-- A lookup in a loaded table fetches the key, or changes nothing. -/
theorem fetches_lookup? (hs : s.guard = .done) (key : Key) :
    Fetches s (h.lookup? key s).2
      (if h.policy = .lazy ∧ (s.table.get? key).isNone then [h.addQuery s.toContents key]
        else []) := by
  unfold lookup?
  rw [init_of_done hs]
  cases hvalue : s.table.get? key with
  | some v => simpa [hvalue] using Fetches.refl s
  | none =>
    cases hpolicy : h.policy with
    | full => simpa [hvalue] using Fetches.refl s
    | lazy => simpa [hvalue] using h.fetches_fetch key s

/-- Once the table was loaded, a request other than `refresh` fetches its key at most. -/
theorem fetches_serve (hs : s.guard = .done) {r : Request α} (hr : r.isRefresh = false) :
    Fetches s (h.serve s r).2 (h.fetches s r) := by
  -- requests without a key have nothing to fetch
  have hquiet : r.key? = none → h.fetches s r = [] := by
    intro hkey
    unfold fetches
    rw [hkey]
    cases h.policy <;> rfl
  cases r with
  | init =>
    rw [hquiet rfl]
    simp only [serve, init_of_done hs]
    exact .refl s
  | refresh => cases hr
  | ask q =>
    cases hq : q.key? with
    | none =>
      rw [hquiet hq]
      simp only [serve, h.ask_of_key?_none hq]
      exact .refl s
    | some key =>
      have hfetches : h.fetches s (.ask q) =
          if h.policy = .lazy ∧ (s.table.get? key).isNone then [h.addQuery s.toContents key]
          else [] := by
        unfold fetches Request.key?
        cases h.policy <;> simp [hq]
      rw [hfetches]
      simp only [serve, h.ask_of_key?_some hq]
      exact fetches_lookup? hs key
  | snapshot =>
    rw [hquiet rfl]
    exact .refl s
  | size =>
    rw [hquiet rfl]
    exact .refl s
  | print render sink =>
    rw [hquiet rfl]
    exact .refl s

/-- Once the table was loaded, requests call no hook up to the next `refresh`, and the only
statements are those of keys that were missed. -/
theorem fetches_after (hs : s.guard = .done) {later : List (Request α)}
    (hlater : ∀ r ∈ later, r.isRefresh = false) :
    (h.after s later).guard = .done ∧
      Fetches s (h.after s later) ((h.trace s later).flatMap fun met => h.fetches met.1 met.2) := by
  -- the guard stays as it is, which is what each request needs to find
  induction later generalizing s with
  | nil => exact ⟨hs, .refl s⟩
  | cons r rest ih =>
    have hfirst := fetches_serve (h := h) hs (hlater r List.mem_cons_self)
    obtain ⟨hguard, hrest⟩ :=
      ih (guard_serve (.inl hs)) fun q hq => hlater q (List.mem_cons_of_mem _ hq)
    rw [trace, List.flatMap_cons]
    exact ⟨hguard, hfirst.trans hrest⟩

/-! ## Refreshes -/

/-- In whatever state a handler is, a refresh answers what the initial load of a new handler answers
that meets the same outcomes, and leaves the same table and the same guard; it calls the hooks, asks
for statements and executes them as often. Under each key the table has what the last entry that the
refresh has stored gives the key, and nothing from before, whether the refresh fails or not. From
then on until the next refresh `init` does nothing, no request calls a hook, and the only statements
are those of keys that a lazy handler looks up while the table lacks them. -/
theorem refresh_starts_over (h : Handler σ α) (s : State σ α) (fresh : Handler τ α) (state : τ)
    (hmeets : h.Meets s.toContents fresh state) :
    (h.refresh s).1 = (fresh.init (.new state)).1 ∧
    (h.refresh s).2.table = (fresh.init (.new state)).2.table ∧
    (h.refresh s).2.guard = (fresh.init (.new state)).2.guard ∧
    (h.refresh s).2.isInitialized = true ∧
    (h.refresh s).2.beforeCalls = s.beforeCalls + (fresh.init (.new state)).2.beforeCalls ∧
    (h.refresh s).2.afterCalls = s.afterCalls + (fresh.init (.new state)).2.afterCalls ∧
    (h.refresh s).2.queryCalls = s.queryCalls + (fresh.init (.new state)).2.queryCalls ∧
    (h.refresh s).2.link.executed =
      s.link.executed ++ (fresh.init (.new state)).2.link.executed ∧
    (∀ key, (h.refresh s).2.table.get? key =
      KeyTable.lastValue? (h.initialYield s.toContents).2 key) ∧
    ∀ later : List (Request α), (∀ r ∈ later, r.isRefresh = false) →
      h.init (h.after (h.refresh s).2 later) = (.ok (), h.after (h.refresh s).2 later) ∧
      Fetches (h.refresh s).2 (h.after (h.refresh s).2 later)
        ((h.trace (h.refresh s).2 later).flatMap fun met => h.fetches met.1 met.2) := by
  -- both begin with an empty table, and differ only in what was counted and executed before
  have ha : h.Attempt { s.toContents with table := .empty } (h.refresh s).1
      (h.refresh s).2.toContents := h.attempt_start _
  have hinit : fresh.init (.new state) =
      ((fresh.start (State.new state).toContents).1,
        ⟨(fresh.start (State.new state).toContents).2, .done⟩) := init_of_new rfl
  obtain ⟨houtcome, htable, hbefore, hafter, hasked, hexecuted⟩ :=
    hmeets.attempts ha (fresh.attempt_start (State.new state).toContents)
  rw [hinit]
  refine ⟨houtcome, htable, rfl, rfl, hbefore, hafter, hasked, hexecuted, ha.get?_of_empty, ?_⟩
  intro later hlater
  obtain ⟨hguard, hfetches⟩ := fetches_after (h := h) (s := (h.refresh s).2) rfl hlater
  exact ⟨init_of_done hguard, hfetches⟩

/-- A tally whose hook fails when it is called again. -/
def brittleTally : Handler Unit Nat :=
  let failure : CacheError := .configuration "no more words"
  let before := fun call => if call = 2 then some failure else none
  ⟨.full, { tally.provider with before }, wordService⟩

/-- The refresh of a loaded tally fails in the hook, and leaves none of its words. -/
theorem refresh_starts_over_brittle :
    (brittleTally.after (.new ()) [.ask (.find (.text "a"))]).table.get? (.text "a") = some 1 ∧
      brittleTally.Meets (brittleTally.after (.new ()) [.ask (.find (.text "a"))]).toContents
        (brittleTally.rebuilt
          (brittleTally.after (.new ()) [.ask (.find (.text "a"))]).toContents) () ∧
      (brittleTally.after (.new ()) [.ask (.find (.text "a")), .refresh]).table.get? (.text "a") =
        none := by
  have hmeets := brittleTally.meets_rebuilt
    (brittleTally.after (.new ()) [.ask (.find (.text "a"))]).toContents
  obtain ⟨-, -, -, -, -, -, -, -, hvalues, -⟩ := brittleTally.refresh_starts_over _ _ _ hmeets
  exact ⟨by decide +kernel, hmeets, (hvalues (.text "a")).trans (by decide +kernel)⟩

end Handler
end CacheService
