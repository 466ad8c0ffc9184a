import CacheService.Lookup.Dump
import CacheService.Proofs.Lookup.Agreement

/-!
# Requests and the loads that they start

A handler is asked for values, to load, to load again, and to show its table. This module says what
single requests do: which of them attempt the initial load (`Request.attempts`), what an attempt
does (`Attempt`), and how a question is answered once the table is loaded.

A load is described by the yield of the cursor that the service answers (`Handler.yieldOf`): how it
ends, and the entries that it stores on the way.
-/

namespace CacheService

variable {σ α : Type}

/-! ## Requests -/

namespace Handler

inductive Request (α : Type) where
  | init
  | refresh
  | ask (question : Question)
  | snapshot
  | size
  | print (render : α → String) (sink : Sink)

inductive Reply (α : Type) where
  | done (outcome : Outcome Unit)
  | answer (outcome : Outcome (Option α))
  | entries (entries : List (Key × α))
  | size (count : Nat)
  | printed (outcome : Outcome Unit) (sink : Sink)

end Handler

/-- The key that is looked up. A null key is looked up only by the handler itself. -/
def Question.key? : Question → Option Key
  | .lookup key | .lookupOrNone key => if key.isNull then none else some key
  | .find key => some key

namespace Handler.Request

/-- The key that a request looks up, if it looks up one. -/
def key? : Request α → Option Key
  | .ask question => question.key?
  | _ => none

def isRefresh : Request α → Bool
  | .refresh => true
  | _ => false

/-- Whether a request begins with the initial load, unless that was started before. -/
def starts : Request α → Bool
  | .init => true
  | .ask question => question.key?.isSome
  | _ => false

/-- Whether a request has the table loaded at the latest. -/
def loads (r : Request α) : Bool :=
  r.isRefresh || r.starts

/-- Whether a request attempts a load when it comes after others: each `refresh`, and the first
request that begins with the initial load if no `refresh` came before it. -/
def attempts (earlier : List (Request α)) (r : Request α) : Bool :=
  r.isRefresh || (r.starts && !earlier.any loads)

/-- What a request is answered after a load with some outcome, from the table that it has left. -/
def reply (h : Handler σ α) (loaded : Outcome Unit) (t : KeyTable α) : Request α → Reply α
  | .init | .refresh => .done loaded
  | .ask question =>
    match question.key?, loaded with
    | some _, .error e => .answer (.error e)
    | _, _ => .answer (question.answer h.source t.get?)
  | .snapshot => .entries t.snapshot
  | .size => .size t.size
  | .print render sink =>
    let (outcome, sink) := sink.print (Dump.lines render h.source.name h.policy t)
    .printed outcome sink

end Handler.Request

namespace Handler

def serve (h : Handler σ α) (s : State σ α) : Request α → Reply α × State σ α
  | .init =>
    let (outcome, s) := h.init s
    (.done outcome, s)
  | .refresh =>
    let (outcome, s) := h.refresh s
    (.done outcome, s)
  | .ask question =>
    let (outcome, s) := h.ask s question
    (.answer outcome, s)
  | .snapshot => (.entries s.table.snapshot, s)
  | .size => (.size s.table.size, s)
  | .print render sink =>
    let (outcome, sink) := h.print render sink s
    (.printed outcome sink, s)

def after (h : Handler σ α) (s : State σ α) (requests : List (Request α)) : State σ α :=
  requests.foldl (fun s r => (h.serve s r).2) s

variable (h : Handler σ α)

@[simp] theorem after_nil (s : State σ α) : h.after s [] = s :=
  rfl

@[simp] theorem after_cons (s : State σ α) (r : Request α) (rest : List (Request α)) :
    h.after s (r :: rest) = h.after (h.serve s r).2 rest :=
  rfl

theorem after_append (s : State σ α) (front back : List (Request α)) :
    h.after s (front ++ back) = h.after (h.after s front) back :=
  List.foldl_append

theorem after_concat (s : State σ α) (front : List (Request α)) (r : Request α) :
    h.after s (front ++ [r]) = (h.serve (h.after s front) r).2 :=
  after_append h s front [r]

/-! ## Questions -/

/-- A question that looks up no key is answered without looking at the table. -/
theorem ask_of_key?_none {q : Question} (hq : q.key? = none) (s : State σ α) :
    h.ask s q = (q.answer h.source fun _ => none, s) := by
  cases q with
  | find key => cases hq
  | lookup key =>
    have hnull : key.isNull = true := by simpa [Question.key?] using hq
    simp [ask, lookup, notFound, Question.answer, hnull, Except.map]
  | lookupOrNone key =>
    have hnull : key.isNull = true := by simpa [Question.key?] using hq
    simp [ask, lookupOrNone, Question.answer, hnull]

/-- A question that looks up a key is answered with its value, if looking it up does not fail. -/
theorem ask_of_key?_some {q : Question} {key : Key} (hq : q.key? = some key) (s : State σ α) :
    h.ask s q =
      (match (h.lookup? key s).1 with
        | .error e => .error e
        | .ok value? => q.answer h.source fun _ => value?,
      (h.lookup? key s).2) := by
  cases q with
  | find k =>
    obtain rfl : k = key := Option.some.inj hq
    rcases hlookup : h.lookup? k s with ⟨e | value?, s'⟩ <;>
      simp [ask, hlookup, Question.answer]
  | lookup k =>
    have hkey : k.isNull = false ∧ k = key := by simpa [Question.key?] using hq
    obtain ⟨hnull, rfl⟩ := hkey
    rcases hlookup : h.lookup? k s with ⟨e | _ | value, s'⟩ <;>
      simp [ask, lookup, notFound, hnull, hlookup, Question.answer, Except.map]
  | lookupOrNone k =>
    have hkey : k.isNull = false ∧ k = key := by simpa [Question.key?] using hq
    obtain ⟨hnull, rfl⟩ := hkey
    rcases hlookup : h.lookup? k s with ⟨e | value?, s'⟩ <;>
      simp [ask, lookupOrNone, hnull, hlookup, Question.answer]

/-- Only the value of the key that is looked up decides about an answer. -/
theorem answer_congr {q : Question} {source : Provider α} {value? value?' : Key → Option α}
    (hsame : ∀ key, q.key? = some key → value? key = value?' key) :
    q.answer source value? = q.answer source value?' := by
  cases q with
  | find key => simp [Question.answer, hsame key rfl]
  | lookup key =>
    cases hnull : key.isNull with
    | true => simp [Question.answer, hnull]
    | false => simp [Question.answer, hnull, hsame key (by simp [Question.key?, hnull])]
  | lookupOrNone key =>
    cases hnull : key.isNull with
    | true => simp [Question.answer, hnull]
    | false => simp [Question.answer, hnull, hsame key (by simp [Question.key?, hnull])]

end Handler

/-! ## Loads -/

namespace Handler

variable (h : Handler σ α)

/-- How the load of a statement ends, and the entries that it stores, when the service is in some
state: nothing if the service refuses the statement, and the yield of its cursor otherwise. -/
def yieldOf (sql : String) (state : σ) : Outcome Unit × List (Entry α) :=
  match (h.service.answer sql state).1 with
  | .error e => (.error e, [])
  | .ok c =>
    let y := h.source.interpreter.yield c
    ((y.outcome c.closing).map fun _ => (), y.entries)

/-- A load executes its statement, stores what it yields, and asks the source for nothing. -/
theorem load_yieldOf (sql : String) (s : Contents σ α) :
    (h.load sql s).1 = (h.yieldOf sql s.link.state).1 ∧
      (h.load sql s).2.table = s.table.insertMany (h.yieldOf sql s.link.state).2 ∧
      (h.load sql s).2.link.executed = s.link.executed ++ [sql] ∧
      (h.load sql s).2.beforeCalls = s.beforeCalls ∧
      (h.load sql s).2.afterCalls = s.afterCalls ∧
      (h.load sql s).2.queryCalls = s.queryCalls := by
  unfold load yieldOf Connection.execute
  rcases hanswer : h.service.answer sql s.link.state with ⟨e | c, state⟩
  · -- a statement that is refused counts as executed
    exact ⟨rfl, rfl, rfl, rfl, rfl, rfl⟩
  · obtain ⟨htable, houtcome, -⟩ := load_spec s.table h.source.interpreter c
    rcases hload : s.table.load h.source.interpreter c with ⟨outcome, closed, table⟩
    rw [hload] at htable houtcome
    dsimp only at htable houtcome
    simp only [hload, htable, houtcome]
    exact ⟨trivial, trivial, rfl, trivial, trivial, trivial⟩

def initialQuery (s : Contents σ α) : Option String :=
  match h.policy with
  | .full => h.source.fullQuery (s.queryCalls + 1)
  | .lazy => h.source.seedQuery (s.queryCalls + 1)

def addQuery (s : Contents σ α) (key : Key) : String :=
  h.source.addQuery (s.queryCalls + 1) key

/-- How the initial load ends, and the entries that it stores. It does not take place if the hook
before it fails, and the full policy cannot do without a statement. -/
def initialYield (s : Contents σ α) : Outcome Unit × List (Entry α) :=
  match h.source.before (s.beforeCalls + 1) with
  | some e => (.error (h.hookFailure e), [])
  | none =>
    match h.policy, h.initialQuery s with
    | _, some sql => h.yieldOf sql s.link.state
    | .full, none =>
      (.error (.configuration s!"{h.source.name} has no full initialization query"), [])
    | .lazy, none => (.ok (), [])

/-- An attempt of the initial load: what it answers, and what it leaves. -/
structure Attempt (s : Contents σ α) (outcome : Outcome Unit) (s' : Contents σ α) : Prop where
  /-- the hook before the load is called once -/
  before : s'.beforeCalls = s.beforeCalls + 1
  /-- the statement is executed once, if there is one and the hook has succeeded -/
  executed : s'.link.executed = s.link.executed ++
    if (h.source.before (s.beforeCalls + 1)).isNone then (h.initialQuery s).toList else []
  /-- the source is asked for the statement if the hook has succeeded -/
  queryCalls : s'.queryCalls = s.queryCalls +
    if (h.source.before (s.beforeCalls + 1)).isNone then 1 else 0
  /-- the hook after the load is called once if the load has succeeded, and not at all if not -/
  after : s'.afterCalls = s.afterCalls + if (h.initialYield s).1.isOk then 1 else 0
  /-- what was stored before a failure stays -/
  table : s'.table = s.table.insertMany (h.initialYield s).2
  /-- the attempt fails as the load does, or as the hook after it -/
  outcome : outcome =
    match (h.initialYield s).1, h.source.after (s.afterCalls + 1) with
    | .error e, _ => .error e
    | .ok (), some e => .error (h.hookFailure e)
    | .ok (), none => .ok ()

/-- The load between the hooks yields what an attempt yields whose first hook succeeds. -/
theorem loadInitial_yield (s : Contents σ α)
    (hbefore : h.source.before (s.beforeCalls + 1) = none) :
    let loaded := h.loadInitial { s with beforeCalls := s.beforeCalls + 1 }
    loaded.1 = (h.initialYield s).1 ∧
      loaded.2.table = s.table.insertMany (h.initialYield s).2 ∧
      loaded.2.link.executed = s.link.executed ++ (h.initialQuery s).toList ∧
      loaded.2.beforeCalls = s.beforeCalls + 1 ∧ loaded.2.afterCalls = s.afterCalls ∧
      loaded.2.queryCalls = s.queryCalls + 1 := by
  -- the source is asked for the statement, and then it is loaded if there is one
  have hload (sql : String) := h.load_yieldOf sql
    { s with beforeCalls := s.beforeCalls + 1, queryCalls := s.queryCalls + 1 }
  unfold loadInitial initialYield initialQuery
  cases hpolicy : h.policy with
  | full =>
    cases hquery : h.source.fullQuery (s.queryCalls + 1) with
    | some sql => simpa [hbefore, hquery] using hload sql
    | none => simp [hbefore, hquery, KeyTable.insertMany]
  | lazy =>
    cases hquery : h.source.seedQuery (s.queryCalls + 1) with
    | some sql => simpa [hbefore, hquery] using hload sql
    | none => simp [hbefore, hquery, KeyTable.insertMany]

/-- The hook after the load is called once more, and fails or not. -/
theorem runAfter_eq (s : Contents σ α) :
    h.runAfter s =
      (match h.source.after (s.afterCalls + 1) with
        | some e => .error (h.hookFailure e)
        | none => .ok (),
      { s with afterCalls := s.afterCalls + 1 }) := by
  unfold runAfter
  cases hlast : h.source.after (s.afterCalls + 1) <;> simp only [hlast]

/-- The initial load with its hooks is an attempt. -/
theorem attempt_start (s : Contents σ α) : h.Attempt s (h.start s).1 (h.start s).2 := by
  unfold start runBefore
  cases hbefore : h.source.before (s.beforeCalls + 1) with
  | some e =>
    -- the hook stands in the way, so nothing is executed or stored
    simp only [hbefore]
    have hyield : h.initialYield s = (.error (h.hookFailure e), []) := by
      simp only [initialYield, hbefore]
    constructor <;> simp [hbefore, hyield, KeyTable.insertMany, Except.isOk, Except.toBool]
  | none =>
    obtain ⟨houtcome, htable, hexecuted, hcalls, hafter, hasked⟩ := h.loadInitial_yield s hbefore
    simp only [hbefore]
    have hstatement : (if (h.source.before (s.beforeCalls + 1)).isNone then
        (h.initialQuery s).toList else []) = (h.initialQuery s).toList := by
      simp [hbefore]
    have hnumber : (if (h.source.before (s.beforeCalls + 1)).isNone then 1 else 0) = 1 := by
      simp [hbefore]
    rcases hload : h.loadInitial { s with beforeCalls := s.beforeCalls + 1 } with ⟨e | u, s'⟩ <;>
      rw [hload] at houtcome htable hexecuted hcalls hafter hasked <;>
      dsimp only at houtcome htable hexecuted hcalls hafter hasked
    · refine ⟨hcalls, ?_, ?_, ?_, htable, ?_⟩
      · rw [hexecuted, hstatement]
      · rw [hasked, hnumber]
      · rw [← houtcome, hafter]
        rfl
      · rw [← houtcome]
    · -- only now the hook after the load is called
      dsimp only
      rw [runAfter_eq, hafter]
      refine ⟨hcalls, ?_, ?_, ?_, htable, ?_⟩
      · rw [hexecuted, hstatement]
      · rw [hasked, hnumber]
      · rw [← houtcome]
        rfl
      · rw [← houtcome]
        cases h.source.after (s.afterCalls + 1) <;> rfl

/-! ## What starts a load -/

variable {h}

/-- The guard lets the first initial load through. -/
theorem init_of_new {s : State σ α} (hs : s.guard = {}) :
    h.init s = ((h.start s.toContents).1, ⟨(h.start s.toContents).2, .done⟩) := by
  unfold init OneShot.run
  rw [hs]
  rcases h.start s.toContents with ⟨e | u, s'⟩ <;> rfl

theorem init_of_done {s : State σ α} (hs : s.guard = .done) : h.init s = (.ok (), s) := by
  unfold init OneShot.run
  rcases s with ⟨s, guard⟩
  obtain rfl : guard = .done := hs
  rfl

theorem guard_fetch (key : Key) (s : State σ α) : (h.fetch key s).2.guard = s.guard := by
  simp only [fetch]
  rcases h.load _ _ with ⟨e | u, s'⟩ <;> rfl

/-- A lookup marks the guard only by the initial load that it begins with. -/
theorem guard_lookup? (key : Key) (s : State σ α) :
    (h.lookup? key s).2.guard = (h.init s).2.guard := by
  unfold lookup?
  rcases h.init s with ⟨e | u, s'⟩
  · rfl
  · cases hvalue : s'.table.get? key with
    | some v => simp only [hvalue]
    | none =>
      cases hpolicy : h.policy with
      | full => simp only [hvalue]
      | lazy =>
        simp only [hvalue]
        exact guard_fetch key s'

/-- A request that has no table loaded is answered from the table as it is. -/
theorem serve_of_not_loads {r : Request α} (hr : r.loads = false) (s : State σ α) :
    h.serve s r = (r.reply h (.ok ()) s.table, s) := by
  cases r with
  | init => cases hr
  | refresh => cases hr
  | ask q =>
    have hq : q.key? = none := by simpa [Request.loads, Request.isRefresh, Request.starts] using hr
    have hsame : (q.answer h.source fun _ => none) = q.answer h.source s.table.get? :=
      answer_congr (by simp [hq])
    simp only [serve, h.ask_of_key?_none hq, hsame, Request.reply, hq]
  | snapshot => rfl
  | size => rfl
  | print render sink => rfl

/-- After a request that has the table loaded the guard is marked, and then it stays so. -/
theorem guard_serve {r : Request α} {s : State σ α}
    (hs : s.guard = .done ∨ (s.guard = {} ∧ r.loads = true)) : (h.serve s r).2.guard = .done := by
  have hinit : s.guard = .done ∨ s.guard = {} → (h.init s).2.guard = .done := by
    rintro (hdone | hnew)
    · rw [init_of_done hdone, hdone]
    · rw [init_of_new hnew]
  cases r with
  | init => exact hinit (hs.imp_right And.left)
  | refresh => rfl
  | ask q =>
    cases hq : q.key? with
    | none =>
      rcases hs with hdone | ⟨-, hloads⟩
      · simp only [serve, h.ask_of_key?_none hq, hdone]
      · simp [Request.loads, Request.isRefresh, Request.starts, hq] at hloads
    | some key =>
      simp only [serve, h.ask_of_key?_some hq, guard_lookup?]
      exact hinit (hs.imp_right And.left)
  | snapshot => exact hs.resolve_right (by simp [Request.loads, Request.isRefresh, Request.starts])
  | size => exact hs.resolve_right (by simp [Request.loads, Request.isRefresh, Request.starts])
  | print render sink =>
    exact hs.resolve_right (by simp [Request.loads, Request.isRefresh, Request.starts])

/-- Until a request has the table loaded nothing happens, and from then on the guard is marked. -/
theorem after_new (h : Handler σ α) (state : σ) (requests : List (Request α)) :
    (requests.any Request.loads = false ∧ h.after (.new state) requests = .new state) ∨
      (requests.any Request.loads = true ∧ (h.after (.new state) requests).guard = .done) := by
  induction requests using List.reverseRecOn with
  | nil => exact .inl ⟨rfl, rfl⟩
  | append_singleton front r ih =>
    rw [after_concat, List.any_append, List.any_cons, List.any_nil, Bool.or_false]
    rcases ih with ⟨hquiet, hsame⟩ | ⟨hloaded, hguard⟩
    · rw [hquiet, hsame, Bool.false_or]
      cases hr : r.loads with
      | false => exact .inl ⟨rfl, by rw [serve_of_not_loads hr]⟩
      | true => exact .inr ⟨rfl, guard_serve (.inr ⟨rfl, hr⟩)⟩
    · rw [hloaded, Bool.true_or]
      exact .inr ⟨rfl, guard_serve (.inl hguard)⟩

/-- Between requests a guard has no mark or both. -/
theorem guard_after (h : Handler σ α) (state : σ) (requests : List (Request α)) :
    (h.after (.new state) requests).guard = {} ∨
      (h.after (.new state) requests).guard = .done := by
  rcases after_new h state requests with ⟨-, hsame⟩ | ⟨-, hdone⟩
  · exact .inl (by rw [hsame]; rfl)
  · exact .inr hdone

end Handler
end CacheService
