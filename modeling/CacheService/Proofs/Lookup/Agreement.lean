import CacheService.Lookup.Handler
import CacheService.Proofs.Lookup.Selection
import Mathlib.Data.List.Sublists

/-!
# Lazy handlers against full ones

A handler that loads everything at once and one that loads what is asked for give the same answers,
if the statements of their source agree with one table (`lazy_agrees_with_full`). The table of the
lazy handler is a growing part of the other: under each key it holds nothing or the same value
(`Part`).
-/

namespace CacheService

variable {σ α : Type}

/-! ## Sources that agree with a table -/

/-- A service that answers a statement with these rows and without a failure, whatever it has
answered before. The predicate holds of the states that the service can be in. -/
def QueryService.Answers (service : QueryService σ) (Good : σ → Prop) (sql : String)
    (rows : List Row) : Prop :=
  ∀ state, Good state → ∃ c next, service.answer sql state = (.ok c, next) ∧ Good next ∧
    c.rows = rows ∧ c.Reliable ∧ c.closing = none

/-- A source whose statements are answered from one table at every call: all rows, some rows chosen
by their keys to start with, and for each key the rows with that key in normal form. -/
structure Provider.Coherent (source : Provider α) (service : QueryService σ) (Good : σ → Prop)
    (rows : List Row) : Prop where
  reads : source.interpreter.Reads rows
  full : ∀ call, ∃ sql, source.fullQuery call = some sql ∧ service.Answers Good sql rows
  seed : ∀ call sql, source.seedQuery call = some sql → ∃ chosen,
    service.Answers Good sql (source.interpreter.rowsOf chosen rows)
  add : ∀ (call : Nat) (key : Key), service.Answers Good (source.addQuery call key)
    (source.interpreter.rowsOf (fun k => k = key.normal) rows)
  before : ∀ call, source.before call = none
  after : ∀ call, source.after call = none

/-! ## Questions -/

inductive Question where
  | lookup (key : Key)
  | lookupOrNone (key : Key)
  | find (key : Key)

namespace Handler

def ask (h : Handler σ α) (s : State σ α) : Question → Outcome (Option α) × State σ α
  | .lookup key =>
    let (outcome, s) := h.lookup key s
    (outcome.map some, s)
  | .lookupOrNone key => h.lookupOrNone key s
  | .find key => h.lookup? key s

def askAll (h : Handler σ α) (s : State σ α) : List Question → List (Outcome (Option α))
  | [] => []
  | q :: rest => (h.ask s q).1 :: h.askAll (h.ask s q).2 rest

end Handler

/-- What a question is answered from the values of keys. -/
def Question.answer (source : Provider α) (value? : Key → Option α) : Question → Outcome (Option α)
  | .lookup key =>
    match if key.isNull then none else value? key with
    | some v => .ok (some v)
    | none => .error (.keyNotFound key.display source.name)
  | .lookupOrNone key => .ok (if key.isNull then none else value? key)
  | .find key => .ok (value? key)

/-! ## Loads -/

namespace Handler

open Interpreter

variable {source : Provider α} {service : QueryService σ} {Good : σ → Prop} {rows : List Row}
  {policy : Policy}

/-- What a statement that answers the rows of chosen keys adds to the table. -/
theorem load_chosen (policy : Policy) (hreads : source.interpreter.Reads rows)
    {chosen : Key → Bool} {sql : String}
    (hsql : service.Answers Good sql (source.interpreter.rowsOf chosen rows))
    {s : Contents σ α} (hs : Good s.link.state) :
    ∃ s' : Contents σ α, (⟨policy, source, service⟩ : Handler σ α).load sql s = (.ok (), s') ∧
      Good s'.link.state ∧
      s'.table = s.table.insertMany
        ((source.interpreter.entriesOf rows).filter fun e => chosen e.key.normal) := by
  obtain ⟨c, next, hanswer, hgood, hrows, hreliable, hclosing⟩ := hsql s.link.state hs
  have hyield := Yield.yield_rowsOf hreads chosen hreliable hrows
  obtain ⟨htable, houtcome, -⟩ := load_spec s.table source.interpreter c
  rw [hyield] at htable houtcome
  rw [hclosing] at houtcome
  rcases hload : s.table.load source.interpreter c with ⟨outcome, closed, table⟩
  rw [hload] at htable houtcome
  dsimp only [Yield.outcome, Option.or_none] at htable houtcome
  unfold load
  simp only [Connection.execute, hanswer, hload, houtcome, Except.map]
  exact ⟨_, rfl, hgood, htable⟩

/-! ## The values of a table -/

/-- A table that holds, under each key, the value that the last entry of all gives it. -/
def Full (es : List (Entry α)) (t : KeyTable α) : Prop :=
  ∀ key, t.get? key = KeyTable.lastValue? es key

/-- A table that holds, under each key, nothing or the value that the last entry of all gives it. -/
def Part (es : List (Entry α)) (t : KeyTable α) : Prop :=
  ∀ key, t.get? key = none ∨ t.get? key = KeyTable.lastValue? es key

/-- What entries with chosen keys give a key. -/
theorem lastValue?_filter (es : List (Entry α)) (chosen : Key → Bool) (key : Key) :
    KeyTable.lastValue? (es.filter fun e => chosen e.key.normal) key =
      if chosen key.normal then KeyTable.lastValue? es key else none := by
  unfold KeyTable.lastValue?
  rw [← List.filter_reverse, List.find?_filter]
  split
  · -- the last entry under the key is chosen, so it is found in either list
    rename_i hchosen
    congr 2
    funext e
    by_cases hkey : e.key.normal = key.normal <;> simp [hkey, hchosen]
  · -- no chosen entry has the key
    rename_i hchosen
    rw [Option.map_eq_none_iff, List.find?_eq_none]
    intro e _ he
    simp only [decide_eq_true_eq] at he
    rw [← he.2] at hchosen
    exact hchosen he.1

theorem part_empty (es : List (Entry α)) : Part es .empty :=
  fun key => .inl (KeyTable.get?_empty key)

/-- Entries with chosen keys, stored again or not, leave a part of the whole. -/
theorem Part.insertMany {es : List (Entry α)} {t : KeyTable α} (h : Part es t)
    (chosen : Key → Bool) : Part es (t.insertMany (es.filter fun e => chosen e.key.normal)) := by
  intro key
  rw [KeyTable.get?_insertMany, lastValue?_filter]
  split
  · cases hlast : KeyTable.lastValue? es key with
    | some v => exact .inr rfl
    | none =>
      -- the key has no entry at all, so the table had nothing under it before
      rcases h key with hnone | hsome
      · exact .inl hnone
      · exact .inl (hsome.trans hlast)
  · exact h key

/-- After the entries of a key were stored, the table holds what all entries give it. -/
theorem Part.get?_insertMany {es : List (Entry α)} {t : KeyTable α} (h : Part es t) (key : Key) :
    (t.insertMany (es.filter fun e => (e.key.normal = key.normal : Bool))).get? key =
      KeyTable.lastValue? es key := by
  rw [KeyTable.get?_insertMany, lastValue?_filter es (fun k => k = key.normal)]
  simp only [decide_true, if_true]
  cases hlast : KeyTable.lastValue? es key with
  | some v => rfl
  | none =>
    rcases h key with hnone | hsome
    · exact hnone
    · exact hsome.trans hlast

/-- What the table of a handler holds once it is loaded. -/
def Held (policy : Policy) (es : List (Entry α)) (t : KeyTable α) : Prop :=
  match policy with
  | .full => Full es t
  | .lazy => Part es t

/-- Under both policies the initial load leaves what the policy holds. -/
theorem loadInitial_spec (hc : source.Coherent service Good rows) {s : Contents σ α}
    (hs : Good s.link.state) (htable : s.table = .empty) :
    ∃ s' : Contents σ α,
      (⟨policy, source, service⟩ : Handler σ α).loadInitial s = (.ok (), s') ∧
      Good s'.link.state ∧ Held policy (source.interpreter.entriesOf rows) s'.table := by
  have hcounted : Good ({ s with queryCalls := s.queryCalls + 1 } : Contents σ α).link.state := hs
  cases policy with
  | full =>
    -- the whole table is that of the rows with any key
    obtain ⟨sql, hsql, hanswers⟩ := hc.full (s.queryCalls + 1)
    have hall : source.interpreter.rowsOf (fun _ => true) rows = rows :=
      rowsOf_true hc.reads
    rw [← hall] at hanswers
    obtain ⟨s', hload, hgood, hafter⟩ := load_chosen .full hc.reads hanswers hcounted
    refine ⟨s', ?_, hgood, ?_⟩
    · simp only [loadInitial, hsql]
      exact hload
    · intro key
      rw [hafter, htable, KeyTable.get?_insertMany, lastValue?_filter _ (fun _ => true),
        if_pos rfl, KeyTable.get?_empty, Option.or_none]
  | lazy =>
    cases hseed : source.seedQuery (s.queryCalls + 1) with
    | none =>
      refine ⟨_, ?_, hcounted, ?_⟩
      · simp only [loadInitial, hseed]
      · rw [htable]
        exact part_empty _
    | some sql =>
      obtain ⟨chosen, hanswers⟩ := hc.seed _ sql hseed
      obtain ⟨s', hload, hgood, hafter⟩ := load_chosen .lazy hc.reads hanswers hcounted
      refine ⟨s', ?_, hgood, ?_⟩
      · simp only [loadInitial, hseed]
        exact hload
      · rw [hafter, htable]
        exact (part_empty _).insertMany chosen

/-- The hooks of a source that agrees with a table do not stand in the way of the initial load. -/
theorem start_spec (hc : source.Coherent service Good rows) {s : Contents σ α}
    (hs : Good s.link.state) (htable : s.table = .empty) :
    ∃ s' : Contents σ α, (⟨policy, source, service⟩ : Handler σ α).start s = (.ok (), s') ∧
      Good s'.link.state ∧ Held policy (source.interpreter.entriesOf rows) s'.table := by
  have hcounted : Good ({ s with beforeCalls := s.beforeCalls + 1 } : Contents σ α).link.state := hs
  obtain ⟨s', hload, hgood, hheld⟩ := loadInitial_spec hc hcounted htable
  refine ⟨{ s' with afterCalls := s'.afterCalls + 1 }, ?_, hgood, hheld⟩
  simp only [start, runBefore, runAfter, hc.before, hc.after, hload]

/-! ## What questions preserve -/

/-- A handler that has not been asked yet, or has been loaded. -/
structure Ready (policy : Policy) (es : List (Entry α)) (Good : σ → Prop) (s : State σ α) :
    Prop where
  good : Good s.link.state
  loaded : (s.guard = {} ∧ s.table = .empty) ∨ (s.guard = .done ∧ Held policy es s.table)

theorem ready_new (policy : Policy) (es : List (Entry α)) {state : σ} (hs : Good state) :
    Ready policy es Good (State.new state) :=
  ⟨hs, .inl ⟨rfl, rfl⟩⟩

/-- After the first question the table is loaded. -/
theorem init_spec (hc : source.Coherent service Good rows) {s : State σ α}
    (hs : Ready policy (source.interpreter.entriesOf rows) Good s) :
    ∃ s' : State σ α, (⟨policy, source, service⟩ : Handler σ α).init s = (.ok (), s') ∧
      Good s'.link.state ∧ s'.guard = .done ∧
      Held policy (source.interpreter.entriesOf rows) s'.table := by
  rcases hs.loaded with ⟨hguard, htable⟩ | ⟨hguard, hheld⟩
  · obtain ⟨contents, hstart, hgood, hheld⟩ := start_spec hc hs.good htable
    refine ⟨{ toContents := contents, guard := .done }, ?_, hgood, rfl, hheld⟩
    simp [init, OneShot.run, hguard, hstart, Except.map]
  · refine ⟨s, ?_, hs.good, hguard, hheld⟩
    rcases s with ⟨contents, guard⟩
    obtain rfl : guard = .done := hguard
    rfl

/-- A lookup answers the value that all entries give its key, under both policies. -/
theorem lookup?_spec (hc : source.Coherent service Good rows) (key : Key) {s : State σ α}
    (hs : Ready policy (source.interpreter.entriesOf rows) Good s) :
    ∃ s' : State σ α, (⟨policy, source, service⟩ : Handler σ α).lookup? key s =
        (.ok (KeyTable.lastValue? (source.interpreter.entriesOf rows) key), s') ∧
      Ready policy (source.interpreter.entriesOf rows) Good s' := by
  obtain ⟨s₁, hinit, hgood, hguard, hheld⟩ := init_spec hc hs
  unfold lookup?
  simp only [hinit]
  cases policy with
  | full =>
    -- what the table does not hold is not there
    have hvalue := hheld key
    refine ⟨s₁, ?_, hgood, .inr ⟨hguard, hheld⟩⟩
    rw [← hvalue]
    cases s₁.table.get? key with
    | some v => rfl
    | none => rfl
  | lazy =>
    cases hget : s₁.table.get? key with
    | some v =>
      -- a part of the whole that holds the key holds the right value
      refine ⟨s₁, ?_, hgood, .inr ⟨hguard, hheld⟩⟩
      rcases hheld key with hnone | hsome
      · rw [hget] at hnone
        cases hnone
      · rw [← hsome, hget]
    | none =>
      -- the rows of the key are loaded, and then the table has its value
      have hcounted : Good ({ s₁.toContents with
          queryCalls := s₁.queryCalls + 1 } : Contents σ α).link.state := hgood
      obtain ⟨contents, hload, hgood', hafter⟩ :=
        load_chosen .lazy hc.reads (hc.add (s₁.queryCalls + 1) key) hcounted
      have hvalue := Part.get?_insertMany hheld key
      rw [← hafter] at hvalue
      have hpart := Part.insertMany hheld fun k => k = key.normal
      rw [← hafter] at hpart
      refine ⟨{ s₁ with toContents := contents }, ?_, hgood', .inr ⟨hguard, hpart⟩⟩
      simp only [fetch, hload, hvalue]

/-- A question is answered from the values that all entries give their keys. -/
theorem ask_spec (hc : source.Coherent service Good rows) (q : Question) {s : State σ α}
    (hs : Ready policy (source.interpreter.entriesOf rows) Good s) :
    ((⟨policy, source, service⟩ : Handler σ α).ask s q).1 =
        q.answer source (KeyTable.lastValue? (source.interpreter.entriesOf rows)) ∧
      Ready policy (source.interpreter.entriesOf rows) Good
        ((⟨policy, source, service⟩ : Handler σ α).ask s q).2 := by
  cases q with
  | find key =>
    obtain ⟨s', hlookup, hready⟩ := lookup?_spec hc key hs
    simp only [ask, hlookup]
    exact ⟨rfl, hready⟩
  | lookupOrNone key =>
    simp only [ask, lookupOrNone, Question.answer]
    split
    · exact ⟨rfl, hs⟩
    · obtain ⟨s', hlookup, hready⟩ := lookup?_spec hc key hs
      rw [hlookup]
      exact ⟨rfl, hready⟩
  | lookup key =>
    simp only [ask, lookup, Question.answer]
    split
    · exact ⟨rfl, hs⟩
    · obtain ⟨s', hlookup, hready⟩ := lookup?_spec hc key hs
      rw [hlookup]
      cases KeyTable.lastValue? (source.interpreter.entriesOf rows) key with
      | some v => exact ⟨rfl, hready⟩
      | none => exact ⟨rfl, hready⟩

/-- Questions in a row are answered from the values that all entries give their keys. -/
theorem askAll_eq (hc : source.Coherent service Good rows) (questions : List Question)
    {s : State σ α} (hs : Ready policy (source.interpreter.entriesOf rows) Good s) :
    (⟨policy, source, service⟩ : Handler σ α).askAll s questions =
      questions.map fun q =>
        q.answer source (KeyTable.lastValue? (source.interpreter.entriesOf rows)) := by
  induction questions generalizing s with
  | nil => rfl
  | cons q rest ih =>
    obtain ⟨hanswer, hready⟩ := ask_spec hc q hs
    rw [askAll, hanswer, ih hready, List.map_cons]

/-- If the statements of a source agree with one table, a handler that loads all of it at once and
one that loads what is asked for give the same answers to any questions in any order. -/
theorem lazy_agrees_with_full (hc : source.Coherent service Good rows) {state state' : σ}
    (hs : Good state) (hs' : Good state') (questions : List Question) :
    (⟨.lazy, source, service⟩ : Handler σ α).askAll (State.new state) questions =
      (⟨.full, source, service⟩ : Handler σ α).askAll (State.new state') questions := by
  rw [askAll_eq hc questions (ready_new .lazy _ hs), askAll_eq hc questions (ready_new .full _ hs')]

/-! ## A source of that kind -/

/-- Words, one in each row. -/
def words : List (Key × Row) :=
  [(.text "A", ⟨[.text "A"]⟩), (.text "A", ⟨[.text "A"]⟩), (.text "a", ⟨[.text "a"]⟩),
    (.text "b", ⟨[.text "b"]⟩)]

/-- Counts how often a word comes in a row. -/
def tally : Source Nat where
  name := "tally"
  interpreter := .perRun "tally" (fun row => row.value 1 >>= Key.ofValue) fun run =>
    match run.head?.map fun row => row.value 1 >>= Key.ofValue with
    | some (.ok key) => .ok (some ⟨key, run.length⟩)
    | _ => .ok none
  fullQuery := some "all"
  seedQuery := some "b"
  addQuery := fun key =>
    if key.normal = .text "a" then "a" else if key.normal = .text "b" then "b" else "other"

/-- Answers the statements of the tally. -/
def wordService : QueryService Unit where
  answer := fun sql state =>
    let keys := if sql = "all" then words else if sql = "a" then words.take 3
      else if sql = "b" then words.drop 3 else []
    (.ok { rows := keys.map Prod.snd }, state)

/-- The tally makes an entry of each run of words, and equal words stand together. -/
theorem reads_tally : tally.interpreter.Reads (words.map Prod.snd) := by
  refine ⟨words, rfl, ?_, ?_, ?_⟩
  · intro p hp
    simp only [words, List.mem_cons, List.not_mem_nil, or_false] at hp
    rcases hp with rfl | rfl | rfl | rfl <;> rfl
  · intro a b c hsub
    have hall : ∀ l ∈ words.sublists, ∀ a ∈ l.head?, ∀ b ∈ l[1]?, ∀ c ∈ l[2]?,
        a.1.normal = c.1.normal → b.1.normal = a.1.normal := by
      decide +kernel
    exact hall [a, b, c] (List.mem_sublists.2 hsub) a rfl b rfl c rfl
  · have hruns : words.splitBy sameKey = [words.take 2, (words.drop 2).take 1, words.drop 3] := by
      decide +kernel
    rw [hruns]
    intro run hrun
    simp only [List.mem_cons, List.not_mem_nil, or_false] at hrun
    rcases hrun with rfl | rfl | rfl
    · exact ⟨_, rfl, by decide +kernel⟩
    · exact ⟨_, rfl, by decide +kernel⟩
    · exact ⟨_, rfl, by decide +kernel⟩

/-- The statement for a key is answered with the rows of the key. -/
theorem answers_tally (key : Key) : wordService.Answers (fun _ => True) (tally.addQuery key)
    (tally.interpreter.rowsOf (fun k => k = key.normal) (words.map Prod.snd)) := by
  by_cases ha : key.normal = .text "a"
  · have hrows : tally.interpreter.rowsOf (fun k => k = .text "a") (words.map Prod.snd) =
        (words.take 3).map Prod.snd := by
      decide +kernel
    rw [ha, hrows]
    simp only [tally, ha, if_true]
    exact fun _ _ => ⟨_, _, rfl, trivial, rfl, fun _ => rfl, rfl⟩
  by_cases hb : key.normal = .text "b"
  · have hrows : tally.interpreter.rowsOf (fun k => k = .text "b") (words.map Prod.snd) =
        (words.drop 3).map Prod.snd := by
      decide +kernel
    rw [hb, hrows]
    simp only [tally, hb, Key.text.injEq, String.reduceEq, if_false, if_true]
    exact fun _ _ => ⟨_, _, rfl, trivial, rfl, fun _ => rfl, rfl⟩
  · -- no row has another key
    have hkeys : ∀ row ∈ words.map Prod.snd, tally.interpreter.keyOf? row = some (.text "a") ∨
        tally.interpreter.keyOf? row = some (.text "b") := by
      decide +kernel
    have hrows :
        tally.interpreter.rowsOf (fun k => k = key.normal) (words.map Prod.snd) = [] := by
      rw [Interpreter.rowsOf, List.filter_eq_nil_iff]
      intro row hrow
      rcases hkeys row hrow with hkey | hkey
      · simpa [hkey] using Ne.symm ha
      · simpa [hkey] using Ne.symm hb
    rw [hrows]
    simp only [tally, ha, hb, if_false]
    intro _ _
    have hanswer : wordService.answer "other" () = (.ok { rows := [] }, ()) := rfl
    exact ⟨{ rows := [] }, (), hanswer, trivial, rfl, fun _ => rfl, rfl⟩

/-- All statements of the tally are answered from the one table of words. -/
theorem coherent_tally :
    tally.provider.Coherent wordService (fun _ => True) (words.map Prod.snd) where
  reads := reads_tally
  full _ := ⟨"all", rfl, fun _ _ => ⟨_, _, rfl, trivial, rfl, fun _ => rfl, rfl⟩⟩
  seed := by
    intro _ sql hsql
    obtain rfl : "b" = sql := Option.some.inj hsql
    have hrows : tally.provider.interpreter.rowsOf (fun k => k = .text "b")
        (words.map Prod.snd) = (words.drop 3).map Prod.snd := by
      decide +kernel
    refine ⟨fun k => k = .text "b", ?_⟩
    rw [hrows]
    exact fun _ _ => ⟨_, _, rfl, trivial, rfl, fun _ => rfl, rfl⟩
  add _ := answers_tally
  before := fun _ => rfl
  after := fun _ => rfl

/-- Both answer the same counts, of which the last one under a key counts. -/
theorem lazy_agrees_with_full_tally :
    let questions : List Question :=
      [.find (.text "c"), .lookup (.text "A"), .lookupOrNone .null, .lookup (.text "B")]
    tally.provider.Coherent wordService (fun _ => True) (words.map Prod.snd) ∧
      (⟨.full, tally, wordService⟩ : Handler Unit Nat).askAll (State.new ()) questions =
        [.ok none, .ok (some 1), .ok none, .ok (some 1)] ∧
      (⟨.lazy, tally, wordService⟩ : Handler Unit Nat).askAll (State.new ()) questions =
        [.ok none, .ok (some 1), .ok none, .ok (some 1)] := by
  intro questions
  have hfull : (⟨.full, tally, wordService⟩ : Handler Unit Nat).askAll (State.new ()) questions =
      [.ok none, .ok (some 1), .ok none, .ok (some 1)] := by
    decide +kernel
  exact ⟨coherent_tally, hfull,
    (lazy_agrees_with_full coherent_tally trivial trivial questions).trans hfull⟩

end Handler

end CacheService
