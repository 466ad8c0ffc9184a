import CacheService.Proofs.Lookup.Requests

/-!
# Handlers that load what is asked for

Under the lazy policy the statements of a run are told by the requests and the states that they meet
(`Handler.statements`): the statement of each initial load that the hook before it lets through, and
one statement for each key that is looked up while the table lacks it. Between two refreshes a table
only grows (`KeyTable.Grows`), so a key that was found once is answered from the table until the
next refresh, and a key that the service does not know is asked for each time.
-/

namespace CacheService

variable {σ α : Type}

/-! ## Tables that grow -/

/-- A table that comes from another one by storing entries. -/
def KeyTable.Grows (t t' : KeyTable α) : Prop :=
  ∃ es, t' = t.insertMany es

namespace KeyTable

/-- Keys with one normal form have one value. -/
theorem get?_congr (t : KeyTable α) {key key' : Key} (h : key.normal = key'.normal) :
    t.get? key = t.get? key' := by
  unfold get?
  rw [Key.renormal_key, Key.renormal_key, h]

theorem Grows.refl (t : KeyTable α) : t.Grows t :=
  ⟨[], rfl⟩

theorem Grows.trans {t t' t'' : KeyTable α} (h : t.Grows t') (h' : t'.Grows t'') :
    t.Grows t'' := by
  obtain ⟨es, rfl⟩ := h
  obtain ⟨es', rfl⟩ := h'
  exact ⟨es ++ es', by rw [insertMany, insertMany, insertMany, List.foldl_append]⟩

/-- A key that has a value keeps one. -/
theorem Grows.isSome {t t' : KeyTable α} (h : t.Grows t') {key : Key}
    (hkey : (t.get? key).isSome = true) : (t'.get? key).isSome = true := by
  obtain ⟨es, rfl⟩ := h
  rw [get?_insertMany, Option.isSome_or, hkey, Bool.or_true]

end KeyTable

namespace Handler

/-! ## What a request executes -/

/-- Whether an initial load that is attempted now executes a statement: the hook before it succeeds,
and there is a statement to begin with. -/
def opens (h : Handler σ α) (s : Contents σ α) : Bool :=
  (h.source.before (s.beforeCalls + 1)).isNone && (h.source.seedQuery (s.queryCalls + 1)).isSome

/-- Whether a request that meets a state attempts the initial load, and this executes a
statement. -/
def seeds (h : Handler σ α) (s : State σ α) (r : Request α) : Bool :=
  (r.isRefresh || (r.starts && !s.isInitialized)) && h.opens s.toContents

/-- Whether a request that meets a state looks up a key that the table lacks. The key is looked up
only after the load, which must not fail. -/
def misses (h : Handler σ α) (s : State σ α) (r : Request α) : Bool :=
  match r.key? with
  | some key => (h.init s).1.isOk && ((h.init s).2.table.get? key).isNone
  | none => false

/-- The statements that a request executes under the lazy policy when it meets a state. -/
def statements (h : Handler σ α) (s : State σ α) (r : Request α) : List String :=
  (if h.seeds s r then (h.source.seedQuery (s.queryCalls + 1)).toList else []) ++
    if h.misses s r then r.key?.toList.map (h.addQuery (h.init s).2.toContents) else []

/-- Requests in a row with the states that they meet. -/
def trace (h : Handler σ α) (s : State σ α) : List (Request α) → List (State σ α × Request α)
  | [] => []
  | r :: rest => (s, r) :: h.trace (h.serve s r).2 rest

variable (h : Handler σ α)

theorem trace_concat (s : State σ α) (front : List (Request α)) (r : Request α) :
    h.trace s (front ++ [r]) = h.trace s front ++ [(h.after s front, r)] := by
  induction front generalizing s with
  | nil => rfl
  | cons first rest ih => rw [List.cons_append, trace, ih, trace, after_cons, List.cons_append]

/-! ## Loads of single keys -/

/-- A fetch executes the statement of its key and stores what it yields. If it does not fail, it
answers from the table that it leaves. -/
theorem fetch_yieldOf (key : Key) (s : State σ α) :
    let loaded := h.yieldOf (h.addQuery s.toContents key) s.link.state
    (h.fetch key s).1 = loaded.1.map (fun _ => (h.fetch key s).2.table.get? key) ∧
      (h.fetch key s).2.table = s.table.insertMany loaded.2 ∧
      (h.fetch key s).2.link.executed = s.link.executed ++ [h.addQuery s.toContents key] := by
  obtain ⟨houtcome, htable, hexecuted, -⟩ := h.load_yieldOf (h.addQuery s.toContents key)
    { s.toContents with queryCalls := s.queryCalls + 1 }
  simp only [fetch, addQuery] at houtcome htable hexecuted ⊢
  rcases hload : h.load (h.source.addQuery (s.queryCalls + 1) key)
    { s.toContents with queryCalls := s.queryCalls + 1 } with ⟨e | u, contents⟩ <;>
    rw [hload] at houtcome htable hexecuted <;> dsimp only at houtcome htable hexecuted ⊢ <;>
    rw [← houtcome] <;> exact ⟨rfl, htable, hexecuted⟩

variable {h}

/-- Under the lazy policy a key is looked up in the table once that is loaded, and fetched if the
table lacks it. -/
theorem lookup?_lazy (hlazy : h.policy = .lazy) (key : Key) (s : State σ α) :
    h.lookup? key s =
      match (h.init s).1, (h.init s).2.table.get? key with
      | .error e, _ => (.error e, (h.init s).2)
      | .ok (), some value => (.ok (some value), (h.init s).2)
      | .ok (), none => h.fetch key (h.init s).2 := by
  unfold lookup?
  rcases h.init s with ⟨e | u, s'⟩
  · rfl
  · rw [hlazy]
    cases hvalue : s'.table.get? key <;> simp only [hvalue]

/-! ## Statements -/

/-- Under the lazy policy an initial load that comes so far executes the statement to begin with. -/
theorem executed_start (hlazy : h.policy = .lazy) (s : Contents σ α) :
    (h.start s).2.link.executed = s.link.executed ++
      if h.opens s then (h.source.seedQuery (s.queryCalls + 1)).toList else [] := by
  have hquery : h.initialQuery s = h.source.seedQuery (s.queryCalls + 1) := by
    simp only [initialQuery, hlazy]
  rw [(h.attempt_start s).executed, hquery, opens]
  cases h.source.seedQuery (s.queryCalls + 1) <;> simp

/-- Only the first initial load executes that statement. -/
theorem executed_init (hlazy : h.policy = .lazy) {s : State σ α}
    (hs : s.guard = {} ∨ s.guard = .done) :
    (h.init s).2.link.executed = s.link.executed ++
      if !s.isInitialized && h.opens s.toContents then
        (h.source.seedQuery (s.queryCalls + 1)).toList
      else [] := by
  rcases hs with hnew | hdone
  · have hfirst : s.isInitialized = false := by rw [State.isInitialized, hnew]
    rw [init_of_new hnew, hfirst, Bool.not_false, Bool.true_and]
    exact executed_start hlazy s.toContents
  · have hlate : s.isInitialized = true := by rw [State.isInitialized, hdone]; rfl
    rw [init_of_done hdone, hlate, Bool.not_true, Bool.false_and]
    exact (List.append_nil _).symm

/-- A request that looks up no key executes the statement of the initial load at most. -/
theorem statements_of_key?_none {r : Request α} (hr : r.key? = none) (s : State σ α) :
    h.statements s r =
      if h.seeds s r then (h.source.seedQuery (s.queryCalls + 1)).toList else [] := by
  simp [statements, misses, hr]

/-- A request executes its statements and no others. -/
theorem executed_serve (hlazy : h.policy = .lazy) {s : State σ α}
    (hs : s.guard = {} ∨ s.guard = .done) (r : Request α) :
    (h.serve s r).2.link.executed = s.link.executed ++ h.statements s r := by
  cases r with
  | init =>
    rw [statements_of_key?_none rfl]
    exact executed_init hlazy hs
  | refresh =>
    rw [statements_of_key?_none rfl]
    exact executed_start hlazy { s.toContents with table := .empty }
  | ask q =>
    cases hq : q.key? with
    | none =>
      have hquiet : h.seeds s (.ask q) = false := by
        simp [seeds, Request.isRefresh, Request.starts, hq]
      have hkey : (Request.ask q : Request α).key? = none := hq
      rw [statements_of_key?_none hkey, hquiet]
      simp only [serve, h.ask_of_key?_none hq]
      exact (List.append_nil _).symm
    | some key =>
      -- first what the initial load executes, and then the statement of the key if it is missed
      have hinit := executed_init hlazy hs
      have hseeds : h.seeds s (.ask q) = (!s.isInitialized && h.opens s.toContents) := by
        simp [seeds, Request.isRefresh, Request.starts, hq]
      have hmisses : h.misses s (.ask q) =
          ((h.init s).1.isOk && ((h.init s).2.table.get? key).isNone) := by
        simp only [misses, Request.key?, hq]
      rw [statements, hseeds, hmisses, ← List.append_assoc, ← hinit]
      simp only [serve, h.ask_of_key?_some hq, lookup?_lazy hlazy, Request.key?, hq]
      rcases h.init s with ⟨e | u, s'⟩
      · exact (List.append_nil _).symm
      · cases hvalue : s'.table.get? key with
        | some value => exact (List.append_nil _).symm
        | none => exact (h.fetch_yieldOf key s').2.2
  | snapshot => exact (List.append_nil _).symm
  | size => exact (List.append_nil _).symm
  | print render sink => exact (List.append_nil _).symm

/-- The statements of a run, in order. -/
theorem executed_after (hlazy : h.policy = .lazy) (state : σ) (requests : List (Request α)) :
    (h.after (.new state) requests).link.executed =
      (h.trace (.new state) requests).flatMap fun met => h.statements met.1 met.2 := by
  induction requests using List.reverseRecOn with
  | nil => rfl
  | append_singleton front r ih =>
    rw [after_concat, executed_serve hlazy (h.guard_after state front), ih, trace_concat,
      List.flatMap_append, List.flatMap_singleton]

/-- A request executes two statements at most: the one to begin with, and that of its key. -/
theorem length_statements (s : State σ α) (r : Request α) :
    (h.statements s r).length =
      (if h.seeds s r then 1 else 0) + if h.misses s r then 1 else 0 := by
  unfold statements
  rw [List.length_append]
  congr 1
  · cases hseeds : h.seeds s r with
    | false => rfl
    | true =>
      obtain ⟨sql, hsql⟩ : ∃ sql, h.source.seedQuery (s.queryCalls + 1) = some sql := by
        rw [seeds, opens, Bool.and_eq_true, Bool.and_eq_true] at hseeds
        exact Option.isSome_iff_exists.1 hseeds.2.2
      rw [hsql]
      rfl
  · cases hmisses : h.misses s r with
    | false => rfl
    | true =>
      cases hkey : r.key? with
      | none => simp [misses, hkey] at hmisses
      | some key => rfl

/-- A run executes one statement for each seed and one for each miss. -/
theorem queries_after (hlazy : h.policy = .lazy) (state : σ) (requests : List (Request α)) :
    (h.after (.new state) requests).queries =
      (h.trace (.new state) requests).countP (fun met => h.seeds met.1 met.2) +
        (h.trace (.new state) requests).countP fun met => h.misses met.1 met.2 := by
  rw [State.queries, executed_after hlazy]
  generalize h.trace (.new state) requests = steps
  induction steps with
  | nil => rfl
  | cons step rest ih =>
    rw [List.flatMap_cons, List.length_append, ih, length_statements, List.countP_cons,
      List.countP_cons]
    omega

/-! ## Growth -/

variable (h)

theorem grows_start (s : Contents σ α) : s.table.Grows (h.start s).2.table :=
  ⟨_, (h.attempt_start s).table⟩

theorem grows_init (s : State σ α) : s.table.Grows (h.init s).2.table := by
  unfold init OneShot.run
  cases hmarked : s.guard.finished || s.guard.started with
  | true =>
    rw [if_pos rfl]
    exact .refl _
  | false => exact h.grows_start s.toContents

theorem grows_fetch (key : Key) (s : State σ α) : s.table.Grows (h.fetch key s).2.table :=
  ⟨_, (h.fetch_yieldOf key s).2.1⟩

theorem grows_lookup? (key : Key) (s : State σ α) : s.table.Grows (h.lookup? key s).2.table := by
  have hgrows := h.grows_init s
  unfold lookup?
  rcases hinit : h.init s with ⟨e | u, s'⟩ <;> rw [hinit] at hgrows
  · exact hgrows
  · cases hvalue : s'.table.get? key with
    | some value => simpa only [hvalue] using hgrows
    | none =>
      cases hpolicy : h.policy with
      | full => simpa only [hvalue] using hgrows
      | lazy => simpa only [hvalue] using hgrows.trans (h.grows_fetch key s')

/-- Whatever fails on the way, a request other than `refresh` takes nothing out of the table. -/
theorem grows_serve {r : Request α} (hr : r.isRefresh = false) (s : State σ α) :
    s.table.Grows (h.serve s r).2.table := by
  cases r with
  | init => exact h.grows_init s
  | refresh => cases hr
  | ask q =>
    cases hq : q.key? with
    | none =>
      simp only [serve, h.ask_of_key?_none hq]
      exact .refl _
    | some key =>
      simp only [serve, h.ask_of_key?_some hq]
      exact h.grows_lookup? key s
  | snapshot => exact .refl _
  | size => exact .refl _
  | print render sink => exact .refl _

/-- Without a `refresh`, a table only ever gets further entries. -/
theorem grows_after {requests : List (Request α)} (hrequests : ∀ r ∈ requests, r.isRefresh = false)
    (s : State σ α) : s.table.Grows (h.after s requests).table := by
  induction requests generalizing s with
  | nil => exact .refl _
  | cons r rest ih =>
    exact (h.grows_serve (hrequests r List.mem_cons_self) s).trans
      (ih (fun q hq => hrequests q (List.mem_cons_of_mem _ hq)) _)

/-! ## Answers -/

/-- A key that is looked up has a value in the answer if it has one in the table. -/
theorem answer_eq_some_iff {q : Question} {key : Key} (hq : q.key? = some key)
    (source : Provider α)
    (value? : Option α) (v : α) :
    (q.answer source fun _ => value?) = .ok (some v) ↔ value? = some v := by
  cases q with
  | find k => simp [Question.answer]
  | lookup k =>
    have hnull : k.isNull = false := by
      have hkey : k.isNull = false ∧ k = key := by simpa [Question.key?] using hq
      exact hkey.1
    cases value? <;> simp [Question.answer, hnull]
  | lookupOrNone k =>
    have hnull : k.isNull = false := by
      have hkey : k.isNull = false ∧ k = key := by simpa [Question.key?] using hq
      exact hkey.1
    simp [Question.answer, hnull]

variable {h}

/-- A lookup that does not fail answers from the table that it leaves. -/
theorem get?_of_lookup? (hlazy : h.policy = .lazy) {key : Key} {s : State σ α} {value? : Option α}
    (hvalue : (h.lookup? key s).1 = .ok value?) : (h.lookup? key s).2.table.get? key = value? := by
  rw [lookup?_lazy hlazy] at hvalue ⊢
  rcases hinit : h.init s with ⟨e | u, s'⟩ <;> rw [hinit] at hvalue
  · cases hvalue
  · cases hget : s'.table.get? key with
    | some v =>
      simp only [hget, Except.ok.injEq] at hvalue ⊢
      exact hvalue
    | none =>
      simp only [hget] at hvalue ⊢
      obtain ⟨houtcome, -, -⟩ := h.fetch_yieldOf key s'
      rw [houtcome] at hvalue
      cases hloaded : (h.yieldOf (h.addQuery s'.toContents key) s'.link.state).1 <;>
        rw [hloaded] at hvalue
      · cases hvalue
      · exact Except.ok.inj hvalue

/-- A value that is answered is the one that the table holds in the end. -/
theorem get?_of_answer (hlazy : h.policy = .lazy) {q : Question} {key : Key}
    (hq : q.key? = some key) {s : State σ α} {v : α}
    (hanswer : (h.serve s (.ask q)).1 = .answer (.ok (some v))) :
    (h.serve s (.ask q)).2.table.get? key = some v := by
  simp only [serve, h.ask_of_key?_some hq, Reply.answer.injEq] at hanswer ⊢
  cases hlookup : (h.lookup? key s).1 with
  | error e =>
    rw [hlookup] at hanswer
    cases hanswer
  | ok value? =>
    rw [hlookup] at hanswer
    rw [get?_of_lookup? hlazy hlookup]
    exact (answer_eq_some_iff hq h.source value? v).1 hanswer

/-- A key that a loaded table holds is answered from it, and nothing changes. -/
theorem serve_of_hit {s : State σ α} (hs : s.guard = .done) {q : Question} {key : Key}
    (hq : q.key? = some key) (hvalue : (s.table.get? key).isSome = true) :
    h.serve s (.ask q) = (.answer (.ok (s.table.get? key)), s) := by
  obtain ⟨v, hv⟩ := Option.isSome_iff_exists.1 hvalue
  have hlookup : h.lookup? key s = (.ok (some v), s) := by
    simp only [lookup?, init_of_done hs, hv]
  simp only [serve, h.ask_of_key?_some hq, hlookup, hv]
  rw [(answer_eq_some_iff hq h.source (some v) v).2 rfl]

/-- A cursor without rows that closes cleanly yields nothing and no failure. -/
theorem yieldOf_of_empty {sql : String} {state : σ} {c : Cursor}
    (hanswer : (h.service.answer sql state).1 = .ok c) (hrows : c.next.1 = .ok none)
    (hclose : c.close.1 = .ok ()) : h.yieldOf sql state = (.ok (), []) := by
  have hnext : c.next = (.ok none, c.next.2) := Prod.ext hrows rfl
  have hdelivered : c.delivered = ([], none) := (Cursor.delivered_of_none hnext).1
  have hyield : h.source.interpreter.yield c = ⟨[], none⟩ := by
    cases h.source.interpreter with
    | perRow name entry => simp [Interpreter.yield, hdelivered, Yield.ofAnswers]
    | perRun name groupKey combine =>
      simp [Interpreter.yield, hdelivered, keyed, Yield.ofRuns, Yield.ofAnswers, completeRuns]
  have hclosing : c.closing = none := by
    cases hc : c.closing with
    | none => rfl
    | some e => simp [Cursor.close, hc] at hclose
  simp [yieldOf, hanswer, hyield, hclosing, Yield.outcome, Except.map]

/-- A key that the service does not know gets no value, and the table stays as it was. -/
theorem serve_of_unknown (hlazy : h.policy = .lazy) {s : State σ α} {q : Question} {key : Key}
    (hq : q.key? = some key) (hmiss : h.misses s (.ask q) = true)
    (hempty : h.yieldOf (h.addQuery (h.init s).2.toContents key) (h.init s).2.link.state =
      (.ok (), [])) :
    (h.serve s (.ask q)).1 = .answer (q.answer h.source fun _ => none) ∧
      (h.serve s (.ask q)).2.table = (h.init s).2.table ∧
      (h.init s).2.table.get? key = none := by
  simp only [misses, Request.key?, hq, Bool.and_eq_true, Option.isNone_iff_eq_none] at hmiss
  obtain ⟨hok, hnone⟩ := hmiss
  obtain ⟨houtcome, htable, -⟩ := h.fetch_yieldOf key (h.init s).2
  rw [hempty] at houtcome htable
  have hsame : (h.fetch key (h.init s).2).2.table = (h.init s).2.table := htable
  rw [hsame, hnone] at houtcome
  simp only [serve, h.ask_of_key?_some hq, lookup?_lazy hlazy, hnone]
  cases hinit : (h.init s).1 with
  | error e =>
    rw [hinit] at hok
    cases hok
  | ok u => exact ⟨by simp only [houtcome, Except.map], hsame, trivial⟩

/-! ## Runs -/

/-- After a lookup the guard is marked, whatever comes next. -/
theorem guard_after_ask (state : σ) (earlier during : List (Request α)) {q : Question} {key : Key}
    (hq : q.key? = some key) :
    (h.after (.new state) (earlier ++ .ask q :: during)).guard = .done := by
  have hloads : (Request.ask q : Request α).loads = true := by
    simp [Request.loads, Request.starts, hq]
  rcases after_new h state (earlier ++ .ask q :: during) with ⟨hquiet, -⟩ | ⟨-, hdone⟩
  · simp [hloads] at hquiet
  · exact hdone

/-- After a lookup with an answer, each lookup of a key with the same normal form is answered from
the table and changes nothing, up to the next `refresh`. -/
theorem serve_of_answered (hlazy : h.policy = .lazy) (state : σ) {earlier during : List (Request α)}
    {q q' : Question} {key key' : Key} {v : α} (hq : q.key? = some key)
    (hanswer : (h.serve (h.after (.new state) earlier) (.ask q)).1 = .answer (.ok (some v)))
    (hduring : ∀ r ∈ during, r.isRefresh = false) (hq' : q'.key? = some key')
    (hsame : key'.normal = key.normal) :
    ((h.after (.new state) (earlier ++ .ask q :: during)).table.get? key').isSome = true ∧
      h.serve (h.after (.new state) (earlier ++ .ask q :: during)) (.ask q') =
        (.answer (.ok ((h.after (.new state) (earlier ++ .ask q :: during)).table.get? key')),
          h.after (.new state) (earlier ++ .ask q :: during)) := by
  have hheld : ((h.serve (h.after (.new state) earlier) (.ask q)).2.table.get? key').isSome =
      true := by
    rw [KeyTable.get?_congr _ hsame, get?_of_answer hlazy hq hanswer]
    rfl
  have hkept := (h.grows_after hduring _).isSome hheld
  rw [← after_cons, ← after_append] at hkept
  exact ⟨hkept, serve_of_hit (guard_after_ask state earlier during hq) hq' hkept⟩

/-- A lookup of a key that the service does not know is not remembered: the next one executes the
statement of its key again. -/
theorem executed_after_unknown (hlazy : h.policy = .lazy) (state : σ) (earlier : List (Request α))
    {q q' : Question} {key key' : Key} (hq : q.key? = some key) (hq' : q'.key? = some key')
    (hsame : key'.normal = key.normal)
    (habsent : (h.after (.new state) (earlier ++ [.ask q])).table.get? key = none) :
    (h.after (.new state) (earlier ++ [.ask q, .ask q'])).link.executed =
      (h.after (.new state) (earlier ++ [.ask q])).link.executed ++
        [h.addQuery (h.after (.new state) (earlier ++ [.ask q])).toContents key'] := by
  have hguard := guard_after_ask (h := h) state earlier [] hq
  have hsplit : earlier ++ [.ask q, .ask q'] = earlier ++ [.ask q] ++ [.ask q'] := by simp
  rw [hsplit, after_concat, executed_serve hlazy (.inr hguard)]
  rw [← KeyTable.get?_congr _ hsame] at habsent
  have hseeds : h.seeds (h.after (.new state) (earlier ++ [.ask q])) (.ask q') = false := by
    simp [seeds, Request.isRefresh, State.isInitialized, hguard, OneShot.done]
  have hmisses : h.misses (h.after (.new state) (earlier ++ [.ask q])) (.ask q') = true := by
    simp [misses, Request.key?, hq', init_of_done hguard, habsent, Except.isOk, Except.toBool]
  simp [statements, hseeds, hmisses, Request.key?, hq', init_of_done hguard]

/-- Under the lazy policy a run executes one statement for each initial load that its first hook
lets through and that has one, and one for each lookup that gets past the load and whose key the
table lacks then. Up to the next `refresh` a key that the table holds stays in it, whatever fails,
so a key that was answered is never asked for again, in whatever spelling. A key without rows leaves
the table as it was, and is asked for by the next lookup as well. What a lookup answers is what the
table holds under its key in the end. -/
theorem lazy_executes_misses (hlazy : h.policy = .lazy) (state : σ) :
    (∀ requests : List (Request α),
      (h.after (.new state) requests).queries =
        (h.trace (.new state) requests).countP (fun met => h.seeds met.1 met.2) +
          (h.trace (.new state) requests).countP fun met => h.misses met.1 met.2) ∧
    (∀ earlier during : List (Request α), (∀ r ∈ during, r.isRefresh = false) → ∀ key : Key,
      ((h.after (.new state) earlier).table.get? key).isSome = true →
        ((h.after (.new state) (earlier ++ during)).table.get? key).isSome = true) ∧
    (∀ (earlier during : List (Request α)) (q q' : Question) (key key' : Key) (v : α),
      q.key? = some key →
      (h.serve (h.after (.new state) earlier) (.ask q)).1 = .answer (.ok (some v)) →
      (∀ r ∈ during, r.isRefresh = false) → q'.key? = some key' → key'.normal = key.normal →
        ((h.after (.new state) (earlier ++ .ask q :: during)).table.get? key').isSome = true ∧
          h.serve (h.after (.new state) (earlier ++ .ask q :: during)) (.ask q') =
            (.answer (.ok ((h.after (.new state) (earlier ++ .ask q :: during)).table.get? key')),
              h.after (.new state) (earlier ++ .ask q :: during))) ∧
    (∀ (earlier : List (Request α)) (q : Question) (key : Key) (c : Cursor), q.key? = some key →
      h.misses (h.after (.new state) earlier) (.ask q) = true →
      (h.service.answer (h.addQuery (h.init (h.after (.new state) earlier)).2.toContents key)
        (h.init (h.after (.new state) earlier)).2.link.state).1 = .ok c →
      c.next.1 = .ok none → c.close.1 = .ok () →
        (h.serve (h.after (.new state) earlier) (.ask q)).1 =
            .answer (q.answer h.source fun _ => none) ∧
          (h.serve (h.after (.new state) earlier) (.ask q)).2.table =
            (h.init (h.after (.new state) earlier)).2.table ∧
          ∀ (q' : Question) (key' : Key), q'.key? = some key' → key'.normal = key.normal →
            (h.after (.new state) (earlier ++ [.ask q, .ask q'])).link.executed =
              (h.after (.new state) (earlier ++ [.ask q])).link.executed ++
                [h.addQuery (h.after (.new state) (earlier ++ [.ask q])).toContents key']) ∧
    ∀ (earlier : List (Request α)) (q : Question) (key : Key) (v : α), q.key? = some key →
      (h.serve (h.after (.new state) earlier) (.ask q)).1 = .answer (.ok (some v)) →
        (h.after (.new state) (earlier ++ [.ask q])).table.get? key = some v := by
  refine ⟨fun requests => queries_after hlazy state requests, ?_, ?_, ?_, ?_⟩
  · intro earlier during hduring key hkey
    rw [after_append]
    exact (h.grows_after hduring _).isSome hkey
  · intro earlier during q q' key key' v hq hanswer hduring hq' hsame
    exact serve_of_answered hlazy state hq hanswer hduring hq' hsame
  · intro earlier q key c hq hmiss hanswer hrows hclose
    -- an answer without rows stores nothing, so the key is absent as before
    have hempty := yieldOf_of_empty hanswer hrows hclose
    obtain ⟨hreply, htable, hnone⟩ := serve_of_unknown hlazy hq hmiss hempty
    refine ⟨hreply, htable, fun q' key' hq' hsame => ?_⟩
    have habsent : (h.after (.new state) (earlier ++ [.ask q])).table.get? key = none := by
      rw [after_concat, htable, hnone]
    exact executed_after_unknown hlazy state earlier hq hq' hsame habsent
  · intro earlier q key v hq hanswer
    rw [after_concat]
    exact get?_of_answer hlazy hq hanswer

/-- The tally that starts with nothing and asks for each word. -/
def askedTally : Handler Unit Nat :=
  ⟨.lazy, { tally.provider with seedQuery := fun _ => none }, wordService⟩

/-- A word that was counted is answered under either spelling and asked for once. A word that comes
in no row is asked for by each lookup. -/
theorem lazy_executes_misses_unknown :
    askedTally.policy = .lazy ∧
      (askedTally.serve (.new ()) (.ask (.find (.text "A")))).1 = .answer (.ok (some 1)) ∧
      askedTally.serve (askedTally.after (.new ()) [.ask (.find (.text "A"))])
          (.ask (.find (.text "a"))) =
        (.answer (.ok (some 1)), askedTally.after (.new ()) [.ask (.find (.text "A"))]) ∧
      askedTally.misses (.new ()) (.ask (.find (.text "C"))) = true ∧
      (askedTally.serve (.new ()) (.ask (.find (.text "C")))).1 = .answer (.ok none) ∧
      (askedTally.after (.new ())
        [.ask (.find (.text "C")), .ask (.find (.text "c"))]).link.executed =
          (askedTally.after (.new ()) [.ask (.find (.text "C"))]).link.executed ++ ["other"] := by
  have hmisses : askedTally.misses (.new ()) (.ask (.find (.text "C"))) = true := by
    decide +kernel
  obtain ⟨-, -, hknown, hunknown, hheld⟩ := lazy_executes_misses (h := askedTally) rfl ()
  have hcounted : (askedTally.serve (.new ()) (.ask (.find (.text "A")))).1 =
      .answer (.ok (some 1)) := by
    have hfound : (askedTally.ask (.new ()) (.find (.text "A"))).1 = .ok (some 1) := by
      decide +kernel
    exact congrArg Reply.answer hfound
  obtain ⟨-, hagain⟩ := hknown [] [] (.find (.text "A")) (.find (.text "a")) (.text "A")
    (.text "a") 1 rfl hcounted (by simp) rfl (by decide +kernel)
  have hvalue := hheld [] (.find (.text "A")) (.text "A") 1 rfl hcounted
  obtain ⟨hnothing, -, hasked⟩ :=
    hunknown [] (.find (.text "C")) (.text "C") { rows := [] } rfl hmisses (by rfl) rfl rfl
  have hsame : (askedTally.after (.new ()) [.ask (.find (.text "A"))]).table.get? (.text "a") =
      some 1 := by
    rw [← hvalue]
    exact KeyTable.get?_congr _ (by decide +kernel)
  have hnext : askedTally.serve (askedTally.after (.new ()) [.ask (.find (.text "A"))])
      (.ask (.find (.text "a"))) =
        (.answer (.ok ((askedTally.after (.new ()) [.ask (.find (.text "A"))]).table.get?
          (.text "a"))), askedTally.after (.new ()) [.ask (.find (.text "A"))]) := hagain
  rw [hsame] at hnext
  exact ⟨rfl, hcounted, hnext, hmisses, hnothing,
    hasked (.find (.text "c")) (.text "c") rfl (by decide +kernel)⟩

end Handler
end CacheService
