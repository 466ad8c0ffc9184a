import CacheService.Proofs.Lookup.Requests

/-!
# Handlers that load everything at once

Under the full policy a load is attempted by each `refresh` and by the first request that needs the
table, and by no other request (`full_loads_once`). All other requests are answered from the table
as the last attempt has left it, whether that attempt failed or not.
-/

namespace CacheService

variable {σ α : Type}

/-! ## How often a load is attempted -/

namespace Handler.Request

/-- The number of attempts in a run: one for each `refresh`, and one more if a request that begins
with the initial load comes before the first `refresh`. -/
def attemptCount (requests : List (Request α)) : Nat :=
  requests.countP isRefresh +
    if (requests.takeWhile fun r => !r.isRefresh).any starts then 1 else 0

/-- Requests that come before any `refresh` have the table loaded if they begin with the load. -/
theorem any_loads_of_not_refresh {requests : List (Request α)}
    (h : ∀ r ∈ requests, r.isRefresh = false) : requests.any loads = requests.any starts := by
  induction requests with
  | nil => rfl
  | cons r rest ih =>
    have hrest := ih fun q hq => h q (List.mem_cons_of_mem _ hq)
    rw [List.any_cons, List.any_cons, hrest, loads, h r List.mem_cons_self, Bool.false_or]

/-- One more request is one more attempt if it attempts a load where it comes. -/
theorem attemptCount_concat (front : List (Request α)) (r : Request α) :
    attemptCount (front ++ [r]) = attemptCount front + if r.attempts front then 1 else 0 := by
  unfold attemptCount attempts
  rw [List.countP_append, List.countP_singleton]
  by_cases hfront : ∀ q ∈ front, q.isRefresh = false
  · -- no `refresh` so far, so only the first request that begins with the load counts
    have hall : (front.takeWhile fun q => !q.isRefresh) = front := by
      rw [List.takeWhile_eq_self_iff]
      intro q hq
      rw [hfront q hq]
      rfl
    have hsplit : ((front ++ [r]).takeWhile fun q => !q.isRefresh) =
        front ++ [r].takeWhile fun q => !q.isRefresh :=
      List.takeWhile_append_of_pos fun q hq => by rw [hfront q hq]; rfl
    rw [hall, hsplit, any_loads_of_not_refresh hfront]
    cases hr : r.isRefresh <;> cases hs : r.starts <;> cases ha : front.any starts <;>
      simp [hr, hs, ha]
  · -- after a `refresh` only another one counts
    obtain ⟨q, hq, hrefresh⟩ : ∃ q ∈ front, q.isRefresh = true := by simpa using hfront
    have hloaded : front.any loads = true :=
      List.any_eq_true.2 ⟨q, hq, by rw [loads, hrefresh, Bool.true_or]⟩
    have hsplit : ((front ++ [r]).takeWhile fun q => !q.isRefresh) =
        front.takeWhile fun q => !q.isRefresh := by
      rw [List.takeWhile_append, if_neg]
      intro hlength
      have hall := (List.takeWhile_prefix fun q : Request α => !q.isRefresh).eq_of_length hlength
      rw [List.takeWhile_eq_self_iff] at hall
      simpa [hrefresh] using hall q hq
    rw [hsplit, hloaded]
    cases r.isRefresh <;> simp [Nat.add_right_comm]

end Handler.Request

namespace Handler

variable {h : Handler σ α}

/-! ## Single requests -/

/-- Under the full policy a key is looked up in the table once that is loaded. -/
theorem lookup?_full (hfull : h.policy = .full) (key : Key) (s : State σ α) :
    h.lookup? key s =
      ((h.init s).1.map fun _ => (h.init s).2.table.get? key, (h.init s).2) := by
  unfold lookup?
  rcases h.init s with ⟨e | u, s'⟩
  · rfl
  · rw [hfull]
    cases hvalue : s'.table.get? key <;> simp [hvalue, Except.map]

/-- Under the full policy a request does no more than to have the table loaded. -/
theorem serve_starts (hfull : h.policy = .full) {r : Request α} (hr : r.starts = true)
    (s : State σ α) :
    h.serve s r = (r.reply h (h.init s).1 (h.init s).2.table, (h.init s).2) := by
  cases r with
  | init => rfl
  | ask q =>
    obtain ⟨key, hq⟩ := Option.isSome_iff_exists.1 (show q.key?.isSome = true from hr)
    simp only [serve, h.ask_of_key?_some hq, lookup?_full hfull, Request.reply, hq]
    rcases h.init s with ⟨e | u, s'⟩
    · rfl
    · have hsame : (q.answer h.source fun _ => s'.table.get? key) =
          q.answer h.source s'.table.get? := by
        refine answer_congr fun k hk => ?_
        rw [hq] at hk
        rw [Option.some.inj hk]
      simp only [Except.map, hsame]
  | refresh => cases hr
  | snapshot => cases hr
  | size => cases hr
  | print render sink => cases hr

/-- A request that attempts a load is answered from what the attempt leaves. -/
theorem serve_of_attempts (hfull : h.policy = .full) (state : σ) {earlier : List (Request α)}
    {r : Request α} (hr : r.attempts earlier = true) :
    ∃ outcome contents,
      h.Attempt { (h.after (.new state) earlier).toContents with table := .empty } outcome
        contents ∧
      h.serve (h.after (.new state) earlier) r =
        (r.reply h outcome contents.table, ⟨contents, .done⟩) := by
  cases hrefresh : r.isRefresh with
  | true =>
    cases r with
    | refresh =>
      refine ⟨_, _, h.attempt_start _, ?_⟩
      rfl
    | _ => cases hrefresh
  | false =>
    -- nothing has happened yet, so the table is empty
    rw [Request.attempts, hrefresh, Bool.false_or, Bool.and_eq_true, Bool.not_eq_true'] at hr
    obtain ⟨hstarts, hquiet⟩ := hr
    have hnew : h.after (.new state) earlier = .new state := by
      rcases after_new h state earlier with ⟨-, hsame⟩ | ⟨hloaded, -⟩
      · exact hsame
      · rw [hquiet] at hloaded
        cases hloaded
    rw [hnew, serve_starts hfull hstarts, init_of_new rfl]
    exact ⟨_, _, h.attempt_start _, rfl⟩

/-- Any other request is answered from the table as it is. -/
theorem serve_of_not_attempts (hfull : h.policy = .full) (state : σ)
    {earlier : List (Request α)} {r : Request α} (hr : r.attempts earlier = false) :
    h.serve (h.after (.new state) earlier) r =
      (r.reply h (.ok ()) (h.after (.new state) earlier).table,
        h.after (.new state) earlier) := by
  cases hloads : r.loads with
  | false => exact serve_of_not_loads hloads _
  | true =>
    -- the request begins with the load, which was started before
    rw [Request.attempts, Bool.or_eq_false_iff] at hr
    obtain ⟨hrefresh, hlate⟩ := hr
    have hstarts : r.starts = true := by simpa [Request.loads, hrefresh] using hloads
    have hloaded : earlier.any Request.loads = true := by simpa [hstarts] using hlate
    rcases after_new h state earlier with ⟨hquiet, -⟩ | ⟨-, hguard⟩
    · rw [hloaded] at hquiet
      cases hquiet
    · rw [serve_starts hfull hstarts, init_of_done hguard]

/-! ## Runs -/

/-- The hook before the load is called once for each attempt of a run. -/
theorem beforeCalls_after (hfull : h.policy = .full) (state : σ) (requests : List (Request α)) :
    (h.after (.new state) requests).beforeCalls = Request.attemptCount requests := by
  induction requests using List.reverseRecOn with
  | nil => rfl
  | append_singleton front r ih =>
    rw [after_concat, Request.attemptCount_concat, ← ih]
    cases hr : r.attempts front with
    | true =>
      obtain ⟨outcome, contents, hattempt, hserve⟩ := serve_of_attempts hfull state hr
      rw [hserve]
      exact hattempt.before
    | false => rw [serve_of_not_attempts hfull state hr]; rfl

/-- After an attempt nothing changes until the next `refresh`. -/
theorem after_attempt (hfull : h.policy = .full) (state : σ) {earlier during : List (Request α)}
    {r : Request α} (hr : r.attempts earlier = true)
    (hduring : ∀ q ∈ during, q.isRefresh = false) :
    h.after (.new state) (earlier ++ r :: during) = h.after (.new state) (earlier ++ [r]) := by
  induction during using List.reverseRecOn with
  | nil => rfl
  | append_singleton front q ih =>
    have hrefresh : q.isRefresh = false := hduring q (by simp)
    have hloaded : (earlier ++ r :: front).any Request.loads = true := by
      have hr' : r.loads = true := by
        rw [Request.attempts, Bool.or_eq_true, Bool.and_eq_true] at hr
        rw [Request.loads, Bool.or_eq_true]
        exact hr.imp_right And.left
      simp [hr']
    have hq : q.attempts (earlier ++ r :: front) = false := by
      rw [Request.attempts, hrefresh, hloaded]
      simp
    have hfront := ih fun other hmem => hduring other (List.mem_append_left _ hmem)
    rw [← List.cons_append, ← List.append_assoc, after_concat, serve_of_not_attempts hfull state hq,
      hfront]

/-- Under the full policy each `refresh` attempts a load, and so does the first request that begins
with the load if no `refresh` came before it. The attempt is made on an empty table, and what it
leaves answers all requests up to the next `refresh`, also if it has failed. A request that attempts
no load changes nothing and fails for no load. -/
theorem full_loads_once (hfull : h.policy = .full) (state : σ) :
    (∀ (earlier : List (Request α)) (r : Request α), r.attempts earlier = true →
      ∃ outcome contents,
        h.Attempt { (h.after (.new state) earlier).toContents with table := .empty } outcome
          contents ∧
        h.serve (h.after (.new state) earlier) r =
          (r.reply h outcome contents.table, ⟨contents, .done⟩) ∧
        ∀ during : List (Request α), (∀ q ∈ during, q.isRefresh = false) →
          h.after (.new state) (earlier ++ r :: during) = ⟨contents, .done⟩) ∧
    (∀ (earlier : List (Request α)) (r : Request α), r.attempts earlier = false →
      h.serve (h.after (.new state) earlier) r =
        (r.reply h (.ok ()) (h.after (.new state) earlier).table,
          h.after (.new state) earlier)) ∧
    ∀ requests : List (Request α),
      (h.after (.new state) requests).beforeCalls = Request.attemptCount requests ∧
        (h.after (.new state) requests).isInitialized = requests.any Request.loads := by
  refine ⟨fun earlier r hr => ?_, fun earlier r hr => serve_of_not_attempts hfull state hr,
    fun requests => ⟨beforeCalls_after hfull state requests, ?_⟩⟩
  · obtain ⟨outcome, contents, hattempt, hserve⟩ := serve_of_attempts hfull state hr
    refine ⟨outcome, contents, hattempt, hserve, fun during hduring => ?_⟩
    rw [after_attempt hfull state hr hduring, after_concat, hserve]
  · rcases after_new h state requests with ⟨hquiet, hsame⟩ | ⟨hloaded, hguard⟩
    · rw [hquiet, hsame]
      rfl
    · rw [hloaded, State.isInitialized, hguard]
      rfl

/-- The tally that counts all words at once. -/
def wholeTally : Handler Unit Nat :=
  ⟨.full, tally, wordService⟩

/-- The tally is loaded by the first word that is looked up, which answers the words after it, and
again by the refresh. -/
theorem full_loads_once_tally :
    wholeTally.policy = .full ∧
      (∃ outcome contents,
        wholeTally.Attempt (State.new ()).toContents outcome contents ∧
          contents.table.get? (.text "a") = some 1 ∧
          wholeTally.after (.new ())
            [.snapshot, .ask (.find (.text "a")), .ask (.lookup (.text "B"))] =
              ⟨contents, .done⟩) ∧
      (wholeTally.serve (wholeTally.after (.new ()) [.snapshot, .ask (.find (.text "a"))])
        (.ask (.lookup (.text "B")))).1 = .answer (.ok (some 1)) ∧
      (wholeTally.after (.new ()) [.snapshot, .ask (.find (.text "a")), .ask (.lookup (.text "B")),
        .refresh, .init]).beforeCalls = 2 := by
  obtain ⟨hattempts, hothers, hruns⟩ := full_loads_once (h := wholeTally) rfl ()
  obtain ⟨outcome, contents, hattempt, -, hduring⟩ :=
    hattempts [.snapshot] (.ask (.find (.text "a"))) rfl
  have hkept : wholeTally.after (.new ())
      [.snapshot, .ask (.find (.text "a")), .ask (.lookup (.text "B"))] = ⟨contents, .done⟩ :=
    hduring [.ask (.lookup (.text "B"))] (by simp [Request.isRefresh])
  have hvalue : contents.table.get? (.text "a") = some 1 := by
    have hcontents := congrArg (fun s : State Unit Nat => s.table.get? (.text "a")) hkept
    exact hcontents.symm.trans (by decide +kernel)
  have hanswer := hothers [.snapshot, .ask (.find (.text "a"))] (.ask (.lookup (.text "B"))) rfl
  have hreply : Question.answer wholeTally.source
      (wholeTally.after (.new ()) [.snapshot, .ask (.find (.text "a"))]).table.get?
        (.lookup (.text "B")) = .ok (some 1) := by
    decide +kernel
  refine ⟨rfl, ⟨outcome, contents, hattempt, hvalue, hkept⟩, ?_, (hruns _).1⟩
  rw [hanswer]
  exact congrArg Reply.answer hreply

end Handler
end CacheService
