import CacheService.Lookup.Runs
import Mathlib.Data.List.SplitBy

/-!
# Calls for the next run

A caller may ask for the next run as often as it likes, also after a failure or the end. What the
calls have read is cut, in order, into one span for each call, and the span explains the answer
(`Runs.Account`): a run is exactly the rows of its span, and only the spans of failures have rows
that are in no run. If nothing fails, the answers are the maximal runs of the cursor and then the
end, however often one asks (`Runs.calls_answer_maximal_runs`).
-/

namespace CacheService

/-! ## Reads one after the other -/

namespace Cursor

/-- What reading a cursor answers, read by read, and the cursor that is left. -/
inductive Reads : Cursor → List (Outcome (Option Row)) → Cursor → Prop
  | nil {c : Cursor} : Reads c [] c
  | cons {c middle last : Cursor} {outcome : Outcome (Option Row)}
      {outcomes : List (Outcome (Option Row))} (first : c.next = (outcome, middle))
      (rest : Reads middle outcomes last) : Reads c (outcome :: outcomes) last

def found (row : Row) : Outcome (Option Row) :=
  .ok (some row)

def row? (outcome : Outcome (Option Row)) : Option Row :=
  outcome.toOption.join

/-- Reads that have found rows hand these rows back. -/
theorem filterMap_row? (rows : List Row) (others : List (Outcome (Option Row))) :
    (rows.map found ++ others).filterMap row? = rows ++ others.filterMap row? := by
  rw [List.filterMap_append, List.filterMap_map]
  congr 1
  exact List.filterMap_some

variable {c middle last : Cursor}

theorem Reads.append {front back : List (Outcome (Option Row))} (h : Reads c front middle)
    (h' : Reads middle back last) : Reads c (front ++ back) last := by
  induction h with
  | nil => exact h'
  | cons first _ ih => exact .cons first (ih h')

/-- One read takes a row or leaves the rows; it finds none only if there is none, and fails only if
that read is to fail. -/
theorem next_spec (c : Cursor) :
    c.next.2.failure = c.failure ∧ (row? c.next.1).toList ++ c.next.2.rows = c.rows ∧
      (c.next.1 = .ok none → c.next.2.rows = []) ∧
      ∀ e, c.next.1 = .error e → ∃ read, c.failure read = some e := by
  cases hf : c.failure (c.reads + 1) with
  | some e =>
    have hnext : c.next = (.error e, { c with reads := c.reads + 1 }) := by
      simp only [next, hf]
    rw [hnext]
    refine ⟨rfl, rfl, nofun, ?_⟩
    intro e' he
    obtain rfl : e = e' := Except.error.inj he
    exact ⟨_, hf⟩
  | none =>
    cases hr : c.rows with
    | nil =>
      have hnext : c.next = (.ok none, { c with reads := c.reads + 1 }) := by
        simp only [next, hf, hr]
      rw [hnext]
      exact ⟨rfl, hr, fun _ => hr, nofun⟩
    | cons row rows =>
      have hnext : c.next = (.ok (some row), { c with rows, reads := c.reads + 1 }) := by
        simp only [next, hf, hr]
      rw [hnext]
      exact ⟨rfl, rfl, nofun, nofun⟩

/-- Reads lose no row: each one was delivered or is still to come. -/
theorem Reads.rows {outcomes : List (Outcome (Option Row))} (h : Reads c outcomes last) :
    outcomes.filterMap row? ++ last.rows = c.rows := by
  induction h with
  | nil => rfl
  | @cons c middle last outcome outcomes first _ ih =>
    obtain ⟨-, hrow, -, -⟩ := next_spec c
    rw [first] at hrow
    rw [← hrow, ← ih]
    cases hout : row? outcome <;> simp [hout]

/-- Once a read has found no row, there is none left. -/
theorem Reads.rows_of_end {outcomes : List (Outcome (Option Row))} (h : Reads c outcomes last)
    (hend : .ok none ∈ outcomes) : last.rows = [] := by
  induction h with
  | nil => cases hend
  | @cons c middle last outcome outcomes first rest ih =>
    rcases List.mem_cons.1 hend with rfl | hend
    · obtain ⟨-, -, hempty, -⟩ := next_spec c
      rw [first] at hempty
      have hrows := rest.rows
      rw [hempty rfl] at hrows
      exact (List.append_eq_nil_iff.1 hrows).2
    · exact ih hend

/-- Every failure that was read is one that was to come from the cursor. -/
theorem Reads.failure {outcomes : List (Outcome (Option Row))} (h : Reads c outcomes last) :
    last.failure = c.failure ∧
      ∀ e, .error e ∈ outcomes → ∃ read, c.failure read = some e := by
  induction h with
  | nil => exact ⟨rfl, fun _ he => by cases he⟩
  | @cons c middle last outcome outcomes first _ ih =>
    obtain ⟨hfailure, -, -, herror⟩ := next_spec c
    rw [first] at hfailure herror
    rw [hfailure] at ih
    refine ⟨ih.1, ?_⟩
    intro e he
    rcases List.mem_cons.1 he with rfl | he
    · exact herror e rfl
    · exact ih.2 e he

end Cursor

namespace Runs

open Cursor (Reads found row?)

variable {groupKey : Row → Outcome Key}

/-! ## What a call does with what it reads -/

/-- How the reads that a call has used explain its answer and the row that it keeps for the next
call. Those of a run are its rows, all of one key, up to the end or to a row of another key. A
failure takes with it the rows that were collected before it, and the row whose key failed. -/
inductive Account (groupKey : Row → Outcome Key) :
    Outcome (Option (List Row)) → List (Outcome (Option Row)) → Option (Key × Row) → Prop
  | ended : Account groupKey (.ok none) [.ok none] none
  | lastRun {key : Key} {run : List Row} (nonempty : run ≠ [])
      (keys : ∀ row ∈ run, groupKey row = .ok key) :
      Account groupKey (.ok (some run)) (run.map found ++ [.ok none]) none
  | run {key other : Key} {run : List Row} {kept : Row} (nonempty : run ≠ [])
      (keys : ∀ row ∈ run, groupKey row = .ok key) (keptKey : groupKey kept = .ok other)
      (differs : other ≠ key) :
      Account groupKey (.ok (some run)) (run.map found) (some (other, kept))
  | readFailed {key : Key} {cut : List Row} {e : CacheError}
      (keys : ∀ row ∈ cut, groupKey row = .ok key) :
      Account groupKey (.error e) (cut.map found ++ [.error e]) none
  | keyFailed {key : Key} {cut : List Row} {row : Row} {e : CacheError}
      (keys : ∀ row ∈ cut, groupKey row = .ok key) (failed : groupKey row = .error e) :
      Account groupKey (.error e) (cut.map found ++ [found row]) none

/-- The row that was read ahead has the key that it is kept with. -/
def Keyed (groupKey : Row → Outcome Key) (r : Runs) : Prop :=
  ∀ key row, r.pending = some (key, row) → groupKey row = .ok key

/-- The read of the row that was read ahead. -/
def ahead (r : Runs) : List (Outcome (Option Row)) :=
  r.pending.toList.map fun kept => found kept.2

/-- A row that is kept for the next call is kept with its own key. -/
theorem Account.keyed {answer : Outcome (Option (List Row))} {span : List (Outcome (Option Row))}
    {r : Runs} (h : Account groupKey answer span r.pending) : r.Keyed groupKey := by
  intro key row hpending
  rw [hpending] at h
  cases h with
  | run _ _ keptKey _ => exact keptKey

/-- Collecting a run reads on to what ends it. -/
theorem collect_account {key : Key} {run : List Row} (c : Cursor) (hne : run ≠ [])
    (hkeys : ∀ row ∈ run, groupKey row = .ok key) :
    ∃ reads span, c.Reads reads (collect groupKey key run c).2.cursor ∧
      run.map found ++ reads = span ++ (collect groupKey key run c).2.ahead ∧
      Account groupKey ((collect groupKey key run c).1.map some) span
        (collect groupKey key run c).2.pending := by
  -- along the rows of the run, up to the read or the key that ends it
  fun_induction collect groupKey key run c with
  | case1 run c e rest hn =>
    exact ⟨[.error e], _, .cons hn .nil, (List.append_nil _).symm, .readFailed hkeys⟩
  | case2 run c rest hn =>
    exact ⟨[.ok none], _, .cons hn .nil, (List.append_nil _).symm, .lastRun hne hkeys⟩
  | case3 run c row rest hn e hk =>
    exact ⟨[found row], _, .cons hn .nil, (List.append_nil _).symm, .keyFailed hkeys hk⟩
  | case4 run c row rest hn hk ih =>
    have hkeys' : ∀ row' ∈ run ++ [row], groupKey row' = .ok key := by
      intro row' hrow
      rcases List.mem_append.1 hrow with hrow | hrow
      · exact hkeys row' hrow
      · rw [List.mem_singleton.1 hrow, hk]
    obtain ⟨reads, span, hreads, hspan, haccount⟩ := ih (by simp) hkeys'
    refine ⟨found row :: reads, span, .cons hn hreads, ?_, haccount⟩
    rw [← hspan]
    simp
  | case5 run c row rest hn other hk hdiffers =>
    exact ⟨[found row], run.map found, .cons hn .nil, rfl, .run hne hkeys hk hdiffers⟩

/-- A call has used the row that was read ahead and what it has read, but for the row that it
keeps. -/
structure Uses (groupKey : Row → Outcome Key) (r : Runs) (reads span : List (Outcome (Option Row)))
    (answer : Outcome (Option (List Row))) (rest : Runs) : Prop where
  read : r.cursor.Reads reads rest.cursor
  cut : r.ahead ++ reads = span ++ rest.ahead
  account : Account groupKey answer span rest.pending

/-- Every call explains its answer by the reads that it has used. -/
theorem next_uses {r : Runs} (hr : r.Keyed groupKey) :
    ∃ reads span, Uses groupKey r reads span (r.next groupKey).1 (r.next groupKey).2 := by
  rcases r with ⟨c, _ | ⟨key, row⟩⟩
  · rcases hn : c.next with ⟨e | _ | row, after⟩
    · have hnext : next groupKey { cursor := c } = (.error e, { cursor := after }) := by
        simp only [next, hn]
      rw [hnext]
      -- no row was collected, so any key will do
      have haccount : Account groupKey (.error e) ([].map found ++ [.error e]) none :=
        @Account.readFailed groupKey .null [] e nofun
      exact ⟨_, _, .cons hn .nil, rfl, haccount⟩
    · have hnext : next groupKey { cursor := c } = (.ok none, { cursor := after }) := by
        simp only [next, hn]
      rw [hnext]
      exact ⟨_, _, .cons hn .nil, rfl, .ended⟩
    · cases hk : groupKey row with
      | error e =>
        have hnext : next groupKey { cursor := c } = (.error e, { cursor := after }) := by
          simp only [next, hn, hk]
        rw [hnext]
        have haccount : Account groupKey (.error e) ([].map found ++ [found row]) none :=
          @Account.keyFailed groupKey .null [] row e nofun hk
        exact ⟨_, _, .cons hn .nil, rfl, haccount⟩
      | ok key =>
        have hnext : next groupKey { cursor := c } =
            ((collect groupKey key [row] after).1.map some,
              (collect groupKey key [row] after).2) := by
          simp only [next, hn, hk]
        rw [hnext]
        obtain ⟨reads, span, hreads, hspan, haccount⟩ :=
          collect_account after (List.cons_ne_nil row []) (by simpa using hk)
        exact ⟨found row :: reads, span, .cons hn hreads, hspan, haccount⟩
  · obtain ⟨reads, span, hreads, hspan, haccount⟩ :=
      collect_account c (List.cons_ne_nil row []) (by simpa using hr key row rfl)
    exact ⟨reads, span, hreads, hspan, haccount⟩

theorem filterMap_ahead (r : Runs) :
    r.ahead.filterMap row? = r.pending.toList.map Prod.snd := by
  cases hr : r.pending <;> simp [ahead, hr, row?, found, Except.toOption]

/-- The rows that no call has used so far. -/
def left (r : Runs) : List Row :=
  r.pending.toList.map Prod.snd ++ r.cursor.rows

namespace Uses

variable {r rest : Runs} {reads span : List (Outcome (Option Row))}
  {answer : Outcome (Option (List Row))}

/-- A call uses the first of the rows that are left. -/
theorem left (h : Uses groupKey r reads span answer rest) :
    r.left = span.filterMap row? ++ rest.left := by
  have hspan := congrArg (List.filterMap row?) h.cut
  rw [List.filterMap_append, List.filterMap_append, filterMap_ahead, filterMap_ahead] at hspan
  rw [Runs.left, Runs.left, ← h.read.rows, ← List.append_assoc, hspan, List.append_assoc]

/-- What is not the read of a row was read for the call itself. -/
theorem mem_reads (h : Uses groupKey r reads span answer rest) {outcome : Outcome (Option Row)}
    (hmem : outcome ∈ span) (hrow : ∀ row, outcome ≠ found row) : outcome ∈ reads := by
  have hcut : outcome ∈ r.ahead ++ reads := by
    rw [h.cut]
    exact List.mem_append_left _ hmem
  rcases List.mem_append.1 hcut with hahead | hreads
  · obtain ⟨kept, -, rfl⟩ := List.mem_map.1 hahead
    exact absurd rfl (hrow kept.2)
  · exact hreads

/-- A call that has come to the end leaves nothing. -/
theorem left_of_end (h : Uses groupKey r reads span answer rest) (hend : .ok none ∈ span)
    (hkept : rest.pending = none) : rest.left = [] := by
  rw [Runs.left, hkept, h.read.rows_of_end (h.mem_reads hend nofun)]
  rfl

/-- The end is answered only when nothing is left, and nothing comes back after that. -/
theorem drained (h : Uses groupKey r reads span answer rest)
    (hdrained : r.left = [] ∨ answer = .ok none) : rest.left = [] := by
  rcases hdrained with hleft | rfl
  · rw [h.left] at hleft
    exact (List.append_eq_nil_iff.1 hleft).2
  · have haccount := h.account
    generalize hkept : rest.pending = kept at haccount
    cases haccount
    exact h.left_of_end List.mem_cons_self hkept

end Uses

/-! ## Many calls -/

/-- The answers to that many calls for the next run, one after the other. -/
def calls (groupKey : Row → Outcome Key) : Nat → Runs → List (Outcome (Option (List Row))) × Runs
  | 0, r => ([], r)
  | n + 1, r =>
    let (answer, rest) := r.next groupKey
    let (answers, last) := calls groupKey n rest
    (answer :: answers, last)

/-- What calls have read is cut into one span for each call, and the row that the last one keeps. -/
theorem calls_spans (n : Nat) {r : Runs} (hr : r.Keyed groupKey) :
    ∃ reads spans, r.cursor.Reads reads (calls groupKey n r).2.cursor ∧
      r.ahead ++ reads = spans.flatten ++ (calls groupKey n r).2.ahead ∧
      List.Forall₂ (fun answer span => ∃ kept, Account groupKey answer span kept)
        (calls groupKey n r).1 spans := by
  -- the row that one call keeps begins the span of the next one
  induction n generalizing r with
  | zero => exact ⟨[], [], .nil, List.append_nil _, .nil⟩
  | succ n ih =>
    obtain ⟨reads, span, huses⟩ := next_uses hr
    obtain ⟨reads', spans, hreads', hspans, haccounts⟩ := ih huses.account.keyed
    refine ⟨reads ++ reads', span :: spans, huses.read.append hreads', ?_,
      .cons ⟨_, huses.account⟩ haccounts⟩
    calc r.ahead ++ (reads ++ reads')
        = span ++ ((r.next groupKey).2.ahead ++ reads') := by
          rw [← List.append_assoc, huses.cut, List.append_assoc]
      _ = (span :: spans).flatten ++ (calls groupKey (n + 1) r).2.ahead := by
          rw [hspans, List.flatten_cons, List.append_assoc]
          rfl

/-- When the end was answered, or nothing was left before, nothing is left. -/
theorem calls_drained (n : Nat) {r : Runs} (hr : r.Keyed groupKey)
    (h : r.left = [] ∨ .ok none ∈ (calls groupKey n r).1) : (calls groupKey n r).2.left = [] := by
  induction n generalizing r with
  | zero => exact h.resolve_right List.not_mem_nil
  | succ n ih =>
    obtain ⟨reads, span, huses⟩ := next_uses hr
    apply ih huses.account.keyed
    rcases h with hleft | hmem
    · exact .inl (huses.drained (.inl hleft))
    · rcases List.mem_cons.1 hmem with hanswer | hmem
      · exact .inl (huses.drained (.inr hanswer.symm))
      · exact .inr hmem

/-! ## Calls that meet no failure -/

/-- No read of what is left fails, and no group key. -/
structure Smooth (groupKey : Row → Outcome Key) (r : Runs) : Prop where
  keyed : r.Keyed groupKey
  reads : ∀ read, r.cursor.failure read = none
  keys : ∀ row ∈ r.left, ∃ key, groupKey row = .ok key

/-- The maximal runs of the rows that are left. -/
def groups (groupKey : Row → Outcome Key) (r : Runs) : List (List Row) :=
  r.left.splitBy fun row other => groupKey row = groupKey other

/-- A run that ends before another key, or with the last row, is the first of the maximal runs. -/
theorem groups_of_run {key : Key} {run : List Row} {r rest : Runs}
    (hleft : r.left = run ++ rest.left) (hne : run ≠ [])
    (hkeys : ∀ row ∈ run, groupKey row = .ok key)
    (hrest : ∀ row ∈ rest.left.head?, groupKey row ≠ .ok key) :
    r.groups groupKey = run :: rest.groups groupKey := by
  -- the run is of one key up to its end, and the row after it is of another
  have hends : ∀ row ∈ run.getLast?, ∀ other ∈ rest.left.head?,
      decide (groupKey row = groupKey other) = false := by
    intro row hrow other hother
    rw [decide_eq_false_iff_not, hkeys row (List.mem_of_mem_getLast? hrow)]
    exact Ne.symm (hrest other hother)
  have hchain : run.IsChain fun row other => decide (groupKey row = groupKey other) = true := by
    apply List.Pairwise.isChain
    apply List.pairwise_of_forall_mem_list
    intro row hrow other hother
    simp [hkeys row hrow, hkeys other hother]
  rw [groups, hleft, List.splitBy_append hends, List.splitBy_of_isChain hne hchain]
  rfl

/-- The rows of a group have one key if the keys do not fail. -/
theorem key_of_mem_groups {r : Runs} (hr : r.Smooth groupKey) {run : List Row}
    (hrun : run ∈ r.groups groupKey) :
    run ≠ [] ∧ ∃ key, ∀ row ∈ run, groupKey row = .ok key := by
  have hne : run ≠ [] := List.ne_nil_of_mem_splitBy hrun
  obtain ⟨first, others, rfl⟩ := List.exists_cons_of_ne_nil hne
  have hsame : (first :: others).IsChain fun row other => groupKey row = groupKey other := by
    simpa using List.isChain_of_mem_splitBy hrun
  have hfirst : first ∈ r.left := by
    rw [← List.flatten_splitBy (fun row other => decide (groupKey row = groupKey other)) r.left]
    exact List.mem_flatten_of_mem hrun List.mem_cons_self
  obtain ⟨key, hkey⟩ := hr.keys first hfirst
  refine ⟨hne, key, ?_⟩
  intro row hrow
  rcases List.mem_cons.1 hrow with rfl | hrow
  · exact hkey
  · have : Trans (fun row other => groupKey row = groupKey other)
        (fun row other => groupKey row = groupKey other)
        (fun row other : Row => groupKey row = groupKey other) := ⟨Eq.trans⟩
    rw [← hsame.rel_cons hrow, hkey]

/-- No row of a group has the key of a row of the group that comes next. -/
theorem groups_differ {r : Runs} (hr : r.Smooth groupKey) :
    (r.groups groupKey).IsChain fun run next =>
      ∀ row ∈ run, ∀ other ∈ next, groupKey row ≠ groupKey other := by
  apply (List.isChain_getLast_head_splitBy _ r.left).imp_of_mem_imp
  rintro run next hrun hnext ⟨hne, hne', hdiffers⟩ row hrow other hother
  obtain ⟨-, key, hkey⟩ := key_of_mem_groups hr hrun
  obtain ⟨-, key', hkey'⟩ := key_of_mem_groups hr hnext
  have hends := of_decide_eq_false hdiffers
  rw [hkey _ (List.getLast_mem hne), hkey' _ (List.head_mem hne')] at hends
  rwa [hkey row hrow, hkey' other hother]

/-- Without failures a call answers the first of the runs that are left, and leaves the others. -/
theorem next_of_smooth {r : Runs} (hr : r.Smooth groupKey) :
    (r.next groupKey).1 = .ok (r.groups groupKey).head? ∧
      (r.next groupKey).2.groups groupKey = (r.groups groupKey).tail ∧
      (r.next groupKey).2.Smooth groupKey := by
  obtain ⟨reads, span, huses⟩ := next_uses hr.keyed
  generalize (r.next groupKey).1 = answer at huses ⊢
  generalize (r.next groupKey).2 = rest at huses ⊢
  have hleft := huses.left
  have hsmooth : rest.Smooth groupKey := by
    refine ⟨huses.account.keyed, ?_, ?_⟩
    · rw [huses.read.failure.1]
      exact hr.reads
    · intro row hrow
      apply hr.keys
      rw [hleft]
      exact List.mem_append_right _ hrow
  -- the account of the call says which rows its answer took off what was left
  have haccount := huses.account
  generalize hkept : rest.pending = kept at haccount
  cases haccount with
  | ended =>
    have hrest := huses.left_of_end List.mem_cons_self hkept
    rw [hrest] at hleft
    have hnone : r.left = [] := hleft
    simp [groups, hnone, hrest, hsmooth]
  | @lastRun key run nonempty keys =>
    have hrest := huses.left_of_end (by simp) hkept
    have hrun : List.filterMap row? (run.map found ++ [.ok none]) = run :=
      (Cursor.filterMap_row? run _).trans (List.append_nil run)
    rw [hrun] at hleft
    have hgroups := groups_of_run hleft nonempty keys (by simp [hrest])
    have hnone : rest.groups groupKey = [] := by simp [groups, hrest]
    simp [hgroups, hnone, hsmooth]
  | @run key other run kept nonempty keys keptKey differs =>
    have hrest : rest.left = kept :: rest.cursor.rows := by
      rw [Runs.left, hkept]
      rfl
    have hrun : (run.map found).filterMap row? = run := by
      simpa using Cursor.filterMap_row? run []
    rw [hrun] at hleft
    have hgroups := groups_of_run hleft nonempty keys (by simp [hrest, keptKey, differs])
    simp [hgroups, hsmooth]
  -- a failure would be one of a read or of a key
  | @readFailed key cut e keys =>
    obtain ⟨read, hread⟩ := huses.read.failure.2 e (huses.mem_reads (by simp) nofun)
    rw [hr.reads read] at hread
    cases hread
  | @keyFailed key cut row e keys failed =>
    have hrow : row ∈ r.left := by
      rw [hleft, Cursor.filterMap_row?]
      simp [row?, found, Except.toOption]
    obtain ⟨key, hkey⟩ := hr.keys row hrow
    rw [failed] at hkey
    cases hkey

/-- Without failures the calls answer the groups one after the other, and then the end. -/
theorem calls_of_smooth (n : Nat) {r : Runs} (hr : r.Smooth groupKey) :
    (calls groupKey n r).1 = (List.range n).map fun i => .ok (r.groups groupKey)[i]? := by
  induction n generalizing r with
  | zero => rfl
  | succ n ih =>
    obtain ⟨hanswer, hgroups, hsmooth⟩ := next_of_smooth hr
    have hcalls : (calls groupKey (n + 1) r).1 =
        (r.next groupKey).1 :: (calls groupKey n (r.next groupKey).2).1 := rfl
    rw [hcalls, hanswer, ih hsmooth, hgroups, List.range_succ_eq_map, List.map_cons, List.map_map,
      List.head?_eq_getElem?]
    congr 1
    apply List.map_congr_left
    intro i _
    simp

/-! ## Groups of a cursor -/

/-- Calls for the next run, as many as one likes, of a cursor. If no read and no group key fails,
they answer groups of consecutive rows that together are the rows of the cursor in order, each group
with one key and neighbours with different keys, and then the end. If some fail, what was read is
still cut into a span for each call that explains its answer, so a run is a stretch of rows with one
key that were delivered one after the other, and a row that was delivered is in no run only if it
comes before a failure in the span of that failure, or if its own key failed. -/
theorem calls_answer_maximal_runs (groupKey : Row → Outcome Key) (c : Cursor) :
    ((∀ read, c.failure read = none) → (∀ row ∈ c.rows, ∃ key, groupKey row = .ok key) →
      ∃ groups : List (List Row), groups.flatten = c.rows ∧
        (∀ run ∈ groups, run ≠ [] ∧ ∃ key, ∀ row ∈ run, groupKey row = .ok key) ∧
        (groups.IsChain fun run next =>
          ∀ row ∈ run, ∀ other ∈ next, groupKey row ≠ groupKey other) ∧
        ∀ n, (calls groupKey n { cursor := c }).1 =
          (List.range n).map fun i => .ok groups[i]?) ∧
    ∀ n, ∃ reads spans,
      c.Reads reads (calls groupKey n { cursor := c }).2.cursor ∧
      reads = spans.flatten ++ (calls groupKey n { cursor := c }).2.ahead ∧
      List.Forall₂ (fun answer span => ∃ kept, Account groupKey answer span kept)
        (calls groupKey n { cursor := c }).1 spans ∧
      spans.flatten.filterMap row? ++ (calls groupKey n { cursor := c }).2.left = c.rows ∧
      (.ok none ∈ (calls groupKey n { cursor := c }).1 →
        (calls groupKey n { cursor := c }).2.left = []) := by
  have hkeyed : Keyed groupKey { cursor := c } := nofun
  refine ⟨?_, ?_⟩
  · intro hreads hkeys
    have hsmooth : Smooth groupKey { cursor := c } := ⟨hkeyed, hreads, hkeys⟩
    exact ⟨groups groupKey { cursor := c }, List.flatten_splitBy _ _,
      fun run hrun => key_of_mem_groups hsmooth hrun, groups_differ hsmooth,
      fun n => calls_of_smooth n hsmooth⟩
  · intro n
    obtain ⟨reads, spans, hreads, hspans, haccounts⟩ := calls_spans n hkeyed
    have hcut : reads = spans.flatten ++ (calls groupKey n { cursor := c }).2.ahead := hspans
    refine ⟨reads, spans, hreads, hcut, haccounts, ?_, fun h => calls_drained n hkeyed (.inr h)⟩
    have hrows := hreads.rows
    rw [hcut, List.filterMap_append, filterMap_ahead, List.append_assoc] at hrows
    exact hrows

/-- Rows of letters, and their keys. -/
def letters : Cursor where
  rows := [⟨[.text "a"]⟩, ⟨[.text "a"]⟩, ⟨[.text "b"]⟩, ⟨[.text "a"]⟩]

def letterOf (row : Row) : Outcome Key :=
  row.value 1 >>= Key.ofValue

/-- The letter that comes back begins a group of its own, and the end is answered twice. -/
theorem calls_answer_maximal_runs_letters :
    (∀ read, letters.failure read = none) ∧
      (∀ row ∈ letters.rows, ∃ key, letterOf row = .ok key) ∧
      ∃ groups : List (List Row), groups.flatten = letters.rows ∧
        (calls letterOf 5 { cursor := letters }).1 =
          [.ok groups[0]?, .ok groups[1]?, .ok groups[2]?, .ok groups[3]?, .ok groups[4]?] := by
  have hkeys : ∀ row ∈ letters.rows, ∃ key, letterOf row = .ok key := by
    intro row hrow
    simp only [letters, List.mem_cons, List.not_mem_nil, or_false] at hrow
    rcases hrow with rfl | rfl | rfl | rfl <;> exact ⟨_, rfl⟩
  obtain ⟨hsmooth, -⟩ := calls_answer_maximal_runs letterOf letters
  obtain ⟨groups, hrows, -, -, hcalls⟩ := hsmooth (fun _ => rfl) hkeys
  exact ⟨fun _ => rfl, hkeys, groups, hrows, hcalls 5⟩

end Runs
end CacheService
