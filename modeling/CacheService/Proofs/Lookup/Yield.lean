import CacheService.Lookup.Load
import CacheService.Proofs.Lookup.KeyTable
import Mathlib.Data.List.SplitBy

/-!
# What a load stores and how it ends

The yield of a cursor is the list of the entries that an interpreter makes of it before the first
failure, and that failure. It is described without reading ahead: the rows up to the first failing
read (`Cursor.delivered`), their keys up to the first failing one (`keyed`), the runs of rows with
one key, of which the last is complete only if nothing failed, and the entries made of these.

A load stores exactly the yield, in order, and answers its size unless something failed
(`load_eq_yield`).
-/

namespace CacheService

/-! ## Rows -/

namespace Cursor

/-- The rows up to the first failing read, where `reads` were made before, and its failure. The read
that finds no row can fail as well. -/
def deliveredFrom (failure : Nat → Option CacheError) (reads : Nat) :
    List Row → List Row × Option CacheError
  | [] => ([], failure (reads + 1))
  | row :: rest =>
    match failure (reads + 1) with
    | some e => ([], some e)
    | none =>
      let (rows, failed) := deliveredFrom failure (reads + 1) rest
      (row :: rows, failed)

/-- The rows that a cursor delivers before the first failing read, and its failure. -/
def delivered (c : Cursor) : List Row × Option CacheError :=
  deliveredFrom c.failure c.reads c.rows

/-- The failure of the read that comes after the one that finds no row. -/
def afterEnd (c : Cursor) : Option CacheError :=
  c.failure (c.reads + c.rows.length + 2)

variable {c rest : Cursor} {row : Row} {e : CacheError}

/-- What reading does not change. -/
structure Continues (c rest : Cursor) : Prop where
  closes : rest.closes = c.closes
  closing : rest.closing = c.closing

theorem Continues.trans {c' : Cursor} (h : Continues c c') (h' : Continues c' rest) :
    Continues c rest where
  closes := h'.closes.trans h.closes
  closing := h'.closing.trans h.closing

theorem continues_next (c : Cursor) : Continues c c.next.2 := by
  unfold next
  cases hf : c.failure (c.reads + 1) with
  | some e =>
    simp only [hf]
    exact ⟨rfl, rfl⟩
  | none =>
    cases c.rows <;> simp only [hf] <;> exact ⟨rfl, rfl⟩

theorem continues_of_next {outcome : Outcome (Option Row)} (h : c.next = (outcome, rest)) :
    Continues c rest := by
  have hnext := continues_next c
  rwa [h] at hnext

/-- The first failing read ends what is delivered. -/
theorem delivered_of_error (h : c.next = (.error e, rest)) : c.delivered = ([], some e) := by
  unfold next at h
  unfold delivered
  cases hf : c.failure (c.reads + 1) with
  | some e' =>
    simp only [hf, Prod.mk.injEq, Except.error.injEq] at h
    obtain ⟨rfl, -⟩ := h
    cases c.rows <;> simp [deliveredFrom, hf]
  | none => cases hr : c.rows <;> simp [hf, hr] at h

/-- A read that finds no row ends it without a failure. -/
theorem delivered_of_none (h : c.next = (.ok none, rest)) :
    c.delivered = ([], none) ∧ rest.delivered = ([], c.afterEnd) := by
  unfold next at h
  unfold delivered afterEnd
  cases hf : c.failure (c.reads + 1) with
  | some e => simp [hf] at h
  | none =>
    cases hr : c.rows with
    | nil =>
      simp only [hf, hr, Prod.mk.injEq, true_and] at h
      subst h
      simp [deliveredFrom, hf]
    | cons row rows => simp [hf, hr] at h

/-- A row that is read comes before what the rest delivers. -/
theorem delivered_of_some (h : c.next = (.ok (some row), rest)) :
    c.delivered = (row :: rest.delivered.1, rest.delivered.2) ∧ rest.afterEnd = c.afterEnd := by
  unfold next at h
  unfold delivered afterEnd
  cases hf : c.failure (c.reads + 1) with
  | some e => simp [hf] at h
  | none =>
    cases hr : c.rows with
    | nil => simp [hf, hr] at h
    | cons first rows =>
      simp only [hf, hr, Prod.mk.injEq, Except.ok.injEq, Option.some.injEq] at h
      obtain ⟨rfl, rfl⟩ := h
      refine ⟨by simp [deliveredFrom, hf], ?_⟩
      have hsum : c.reads + 1 + rows.length + 2 = c.reads + (rows.length + 1) + 2 := by omega
      simp only [List.length_cons, hsum]

end Cursor

/-! ## Keys and runs -/

/-- The rows with their group keys, up to the first failure of a key or of the reads. -/
def keyed (groupKey : Row → Outcome Key) :
    List Row × Option CacheError → List (Key × Row) × Option CacheError
  | ([], failed) => ([], failed)
  | (row :: rest, failed) =>
    match groupKey row with
    | .error e => ([], some e)
    | .ok key =>
      let (rows, failed) := keyed groupKey (rest, failed)
      ((key, row) :: rows, failed)

/-- Whether two rows belong to one run if they come one after the other. -/
def sameKey (a b : Key × Row) : Bool :=
  a.1 = b.1

/-- The runs that are complete: all but the last one if something failed. -/
def completeRuns (rows : List (Key × Row)) (failed : Option CacheError) : List (List Row) :=
  let runs := (rows.splitBy sameKey).map fun run => run.map Prod.snd
  if failed.isSome then runs.dropLast else runs

/-- A run of one key that ends where another key begins. -/
theorem splitBy_run {key : Key} {run rest : List (Key × Row)} (hne : run ≠ [])
    (hrun : ∀ p ∈ run, p.1 = key) (hrest : ∀ p ∈ rest.head?, p.1 ≠ key) :
    (run ++ rest).splitBy sameKey = run :: rest.splitBy sameKey := by
  -- the run is cut off from the rest, and nowhere cut itself
  have hends : ∀ x ∈ run.getLast?, ∀ y ∈ rest.head?, sameKey x y = false := by
    intro x hx y hy
    have hkey := hrun x (List.mem_of_mem_getLast? hx)
    have hother := hrest y hy
    simp only [sameKey, hkey, decide_eq_false_iff_not]
    exact Ne.symm hother
  have hchain : run.IsChain fun x y => sameKey x y = true := by
    apply List.Pairwise.isChain
    apply List.pairwise_of_forall_mem_list
    intro x hx y hy
    simp [sameKey, hrun x hx, hrun y hy]
  rw [List.splitBy_append hends, List.splitBy_of_isChain hne hchain]
  rfl

namespace Runs

/-- The keyed rows that are left, the one that was read already included. -/
def stream (groupKey : Row → Outcome Key) (r : Runs) : List (Key × Row) × Option CacheError :=
  let (rows, failed) := keyed groupKey r.cursor.delivered
  (r.pending.toList ++ rows, failed)

/-- What is left after a run: nothing but the read after the end, or the run that begins with
another key. -/
def Leaves (groupKey : Row → Outcome Key) (rest : List (Key × Row)) (failed : Option CacheError)
    (afterEnd : Option CacheError) (r : Runs) : Prop :=
  (rest = [] ∧ failed = none ∧ r.stream groupKey = ([], afterEnd)) ∨
    (rest ≠ [] ∧ r.stream groupKey = (rest, failed) ∧ r.cursor.afterEnd = afterEnd)

variable (groupKey : Row → Outcome Key)

/-- Collecting a run takes the rows of its key, and fails only if what comes next fails. -/
theorem collect_spec (key : Key) (run : List Row) (c : Cursor) :
    c.Continues (collect groupKey key run c).2.cursor ∧
      ∃ same rest, (keyed groupKey c.delivered).1 = same ++ rest ∧
        (∀ p ∈ same, p.1 = key) ∧ (∀ p ∈ rest.head?, p.1 ≠ key) ∧
        ((∃ e, rest = [] ∧ (keyed groupKey c.delivered).2 = some e ∧
            (collect groupKey key run c).1 = .error e) ∨
          ((collect groupKey key run c).1 = .ok (run ++ same.map Prod.snd) ∧
            Leaves groupKey rest (keyed groupKey c.delivered).2 c.afterEnd
              (collect groupKey key run c).2)) := by
  -- row by row: the read fails, finds no row, or finds one whose key fails, is the same or another
  fun_induction collect groupKey key run c with
  | case1 run c e after hn =>
    have hcursor := Cursor.continues_of_next hn
    refine ⟨hcursor, [], [], ?_⟩
    rw [Cursor.delivered_of_error hn]
    simp [keyed]
  | case2 run c after hn =>
    have hcursor := Cursor.continues_of_next hn
    obtain ⟨hdelivered, hafter⟩ := Cursor.delivered_of_none hn
    refine ⟨hcursor, [], [], ?_⟩
    rw [hdelivered]
    simp [keyed, Leaves, stream, hafter]
  | case3 run c row after hn e hk =>
    have hcursor := Cursor.continues_of_next hn
    refine ⟨hcursor, [], [], ?_⟩
    rw [(Cursor.delivered_of_some hn).1]
    simp [keyed, hk]
  | case4 run c row after hn hk ih =>
    have hcursor := Cursor.continues_of_next hn
    obtain ⟨hdelivered, hafter⟩ := Cursor.delivered_of_some hn
    obtain ⟨hrest, same, rest, hsplit, hsame, hother, hcases⟩ := ih
    refine ⟨hcursor.trans hrest, (key, row) :: same, rest, ?_, ?_, hother, ?_⟩
    · rw [hdelivered]
      simp [keyed, hk, hsplit]
    · intro p hp
      rcases List.mem_cons.1 hp with rfl | hp
      · rfl
      · exact hsame p hp
    · rw [hdelivered]
      simpa [keyed, hk, hafter] using hcases
  | case5 run c row after hn other hk hne =>
    have hcursor := Cursor.continues_of_next hn
    obtain ⟨hdelivered, hafter⟩ := Cursor.delivered_of_some hn
    refine ⟨hcursor, [], (other, row) :: (keyed groupKey after.delivered).1, ?_⟩
    rw [hdelivered]
    simp [keyed, hk, hne, Leaves, stream, hafter]

/-- A run that begins with a row is the first run of the rows from it on. -/
theorem collect_first (key : Key) (first : Row) (c : Cursor) :
    ∃ run rest, run ≠ [] ∧ (key, first) :: (keyed groupKey c.delivered).1 = run ++ rest ∧
      (∀ p ∈ run, p.1 = key) ∧ (∀ p ∈ rest.head?, p.1 ≠ key) ∧
      ((∃ e, rest = [] ∧ (keyed groupKey c.delivered).2 = some e ∧
          (collect groupKey key [first] c).1 = .error e) ∨
        ((collect groupKey key [first] c).1 = .ok (run.map Prod.snd) ∧
          Leaves groupKey rest (keyed groupKey c.delivered).2 c.afterEnd
            (collect groupKey key [first] c).2)) := by
  obtain ⟨-, same, rest, hsplit, hsame, hother, hcases⟩ := collect_spec groupKey key [first] c
  refine ⟨(key, first) :: same, rest, List.cons_ne_nil _ _, ?_, ?_, hother, hcases⟩
  · rw [hsplit]
    rfl
  · intro p hp
    rcases List.mem_cons.1 hp with rfl | hp
    · rfl
    · exact hsame p hp

/-- A call for the next run takes the first run of what is left, unless what follows it fails. -/
def TakesRun (r : Runs) : Prop :=
  ∃ key run rest, run ≠ [] ∧ (r.stream groupKey).1 = run ++ rest ∧
    (∀ p ∈ run, p.1 = key) ∧ (∀ p ∈ rest.head?, p.1 ≠ key) ∧
    ((∃ e, rest = [] ∧ (r.stream groupKey).2 = some e ∧ (r.next groupKey).1 = .error e) ∨
      ((r.next groupKey).1 = .ok (some (run.map Prod.snd)) ∧
        Leaves groupKey rest (r.stream groupKey).2 r.cursor.afterEnd (r.next groupKey).2))

/-- A call that goes on to collect the run of a row takes that run. -/
theorem takesRun_of_collect {r : Runs} {key : Key} {first : Row} {c : Cursor}
    (hstream : r.stream groupKey =
      ((key, first) :: (keyed groupKey c.delivered).1, (keyed groupKey c.delivered).2))
    (hnext : r.next groupKey =
      ((collect groupKey key [first] c).1.map some, (collect groupKey key [first] c).2))
    (hafter : c.afterEnd = r.cursor.afterEnd) : TakesRun groupKey r := by
  obtain ⟨run, rest, hne, hsplit, hrun, hother, hcases⟩ := collect_first groupKey key first c
  rw [hsplit] at hstream
  refine ⟨key, run, rest, hne, by rw [hstream], hrun, hother, ?_⟩
  rw [hstream, hnext, ← hafter]
  rcases hcases with ⟨e, hrest, hfailed, hcall⟩ | ⟨hcall, hleaves⟩
  · exact .inl ⟨e, hrest, hfailed, by simp [hcall, Except.map]⟩
  · exact .inr ⟨by simp [hcall, Except.map], hleaves⟩

/-- A call for the next run fails or ends if nothing but that is left, and otherwise takes a run. -/
theorem next_spec (r : Runs) :
    r.cursor.Continues (r.next groupKey).2.cursor ∧
      ((∃ e, r.stream groupKey = ([], some e) ∧ (r.next groupKey).1 = .error e) ∨
        (r.stream groupKey = ([], none) ∧ (r.next groupKey).1 = .ok none) ∨
        TakesRun groupKey r) := by
  rcases r with ⟨c, _ | ⟨key, first⟩⟩
  · -- nothing was read ahead, which is so at the start and at the end
    rcases hn : c.next with ⟨e | _ | row, after⟩ <;>
      have hcursor := Cursor.continues_of_next hn
    · have hnext : next groupKey { cursor := c } = (.error e, { cursor := after }) := by
        simp only [next, hn]
      rw [hnext]
      refine ⟨hcursor, .inl ⟨e, ?_, rfl⟩⟩
      simp [stream, Cursor.delivered_of_error hn, keyed]
    · have hnext : next groupKey { cursor := c } = (.ok none, { cursor := after }) := by
        simp only [next, hn]
      rw [hnext]
      refine ⟨hcursor, .inr (.inl ⟨?_, rfl⟩)⟩
      simp [stream, (Cursor.delivered_of_none hn).1, keyed]
    · obtain ⟨hdelivered, hafter⟩ := Cursor.delivered_of_some hn
      cases hk : groupKey row with
      | error e =>
        have hnext : next groupKey { cursor := c } = (.error e, { cursor := after }) := by
          simp only [next, hn, hk]
        rw [hnext]
        refine ⟨hcursor, .inl ⟨e, ?_, rfl⟩⟩
        simp [stream, hdelivered, keyed, hk]
      | ok key =>
        -- the row that was found begins the run
        have hstream : stream groupKey { cursor := c } =
            ((key, row) :: (keyed groupKey after.delivered).1,
              (keyed groupKey after.delivered).2) := by
          simp [stream, hdelivered, keyed, hk]
        have hnext : next groupKey { cursor := c } =
            ((collect groupKey key [row] after).1.map some,
              (collect groupKey key [row] after).2) := by
          simp only [next, hn, hk]
        refine ⟨?_, .inr (.inr (takesRun_of_collect groupKey hstream hnext hafter))⟩
        rw [hnext]
        exact hcursor.trans (collect_spec groupKey key [row] after).1
  · -- the first row of the run was read when the run before it was collected
    have hstream : stream groupKey { cursor := c, pending := some (key, first) } =
        ((key, first) :: (keyed groupKey c.delivered).1, (keyed groupKey c.delivered).2) := by
      simp [stream]
    exact ⟨(collect_spec groupKey key [first] c).1,
      .inr (.inr (takesRun_of_collect groupKey hstream rfl rfl))⟩

end Runs

/-! ## Yields -/

variable {α : Type}

/-- The entries that are made before the first failure, and that failure. -/
structure Yield (α : Type) where
  entries : List (Entry α)
  failure : Option CacheError

namespace Yield

/-- What an interpreter's answer adds in front of what comes after it, which is nothing if the
answer is a failure. To make nothing is a failure as well. -/
def andThen (name : String) (made : Outcome (Option (Entry α))) (y : Yield α) : Yield α :=
  match made with
  | .error e => ⟨[], some e⟩
  | .ok none => ⟨[], some (.missingKeyValue name)⟩
  | .ok (some entry) => ⟨entry :: y.entries, y.failure⟩

/-- What is made of answers in order, after which something fails or not. -/
def ofAnswers (name : String) (answers : List (Outcome (Option (Entry α))))
    (failed : Option CacheError) : Yield α :=
  answers.foldr (andThen name) ⟨[], failed⟩

theorem ofAnswers_cons (name : String) (made : Outcome (Option (Entry α)))
    (answers : List (Outcome (Option (Entry α)))) (failed : Option CacheError) :
    ofAnswers name (made :: answers) failed = andThen name made (ofAnswers name answers failed) :=
  rfl

/-- What runs of keyed rows yield. After the last run the cursor is read once more. -/
def ofRuns (name : String) (combine : List Row → Outcome (Option (Entry α)))
    (rows : List (Key × Row)) (failed afterEnd : Option CacheError) : Yield α :=
  ofAnswers name ((completeRuns rows failed).map combine)
    (failed.or (if rows.isEmpty then none else afterEnd))

/-- What a load answers that has stored the entries and closed the cursor. A failure on the way goes
before a failure of closing. -/
def outcome (y : Yield α) (closing : Option CacheError) : Outcome Nat :=
  match y.failure.or closing with
  | some e => .error e
  | none => .ok y.entries.length

end Yield

/-- What an interpreter makes of a cursor. -/
def Interpreter.yield (i : Interpreter α) (c : Cursor) : Yield α :=
  match i with
  | .perRow name entry => Yield.ofAnswers name (c.delivered.1.map entry) c.delivered.2
  | .perRun name groupKey combine =>
    let (rows, failed) := keyed groupKey c.delivered
    Yield.ofRuns name combine rows failed c.afterEnd

namespace Yield

/-! ## Runs one after the other -/

/-- A run is complete if another one follows it or nothing has failed. -/
theorem completeRuns_run {key : Key} {run rest : List (Key × Row)} (hne : run ≠ [])
    (hrun : ∀ p ∈ run, p.1 = key) (hrest : ∀ p ∈ rest.head?, p.1 ≠ key)
    {failed : Option CacheError} (hends : rest ≠ [] ∨ failed = none) :
    completeRuns (run ++ rest) failed = run.map Prod.snd :: completeRuns rest failed := by
  unfold completeRuns
  rw [splitBy_run hne hrun hrest, List.map_cons]
  cases failed with
  | none => rfl
  | some e =>
    -- the last run is one of the rest
    have hsplit : rest.splitBy sameKey ≠ [] := by
      rcases hends with hends | hends
      · exact List.splitBy_ne_nil.2 hends
      · cases hends
    simp only [Option.isSome_some, if_true]
    rw [List.dropLast_cons_of_ne_nil]
    simpa using hsplit

/-- A run that is cut short by a failure is not complete. -/
theorem completeRuns_cut {key : Key} {run : List (Key × Row)} (hne : run ≠ [])
    (hrun : ∀ p ∈ run, p.1 = key) (e : CacheError) : completeRuns run (some e) = [] := by
  have hsplit : run.splitBy sameKey = [run] := by
    have hsplit : (run ++ []).splitBy sameKey = run :: List.splitBy sameKey [] :=
      splitBy_run hne hrun (by simp)
    simpa using hsplit
  simp [completeRuns, hsplit]

/-! ## One step of a load -/

variable {name : String}

/-- What is left of a cursor and of runs yields. -/
def ofStream (name : String) (groupKey : Row → Outcome Key)
    (combine : List Row → Outcome (Option (Entry α))) (r : Runs) : Yield α :=
  ofRuns name combine (r.stream groupKey).1 (r.stream groupKey).2 r.cursor.afterEnd

/-- What a call for the next run answers says what the runs that are left yield. -/
theorem ofStream_next (groupKey : Row → Outcome Key)
    (combine : List Row → Outcome (Option (Entry α))) (r : Runs) :
    ofStream name groupKey combine r =
      match (r.next groupKey).1 with
      | .error e => ⟨[], some e⟩
      | .ok none => ⟨[], none⟩
      | .ok (some run) =>
        andThen name (combine run) (ofStream name groupKey combine (r.next groupKey).2) := by
  unfold ofStream
  rcases (Runs.next_spec groupKey r).2 with
    ⟨e, hstream, hcall⟩ | ⟨hstream, hcall⟩ | ⟨key, run, rest, hne, hsplit, hrun, hother, hcases⟩
  · rw [hstream, hcall]
    simp [ofRuns, ofAnswers, completeRuns]
  · rw [hstream, hcall]
    simp [ofRuns, ofAnswers, completeRuns]
  · rcases hcases with ⟨e, rfl, hfailed, hcall⟩ | ⟨hcall, hleaves⟩
    · -- the run was cut short, so its rows make no entry
      rw [List.append_nil] at hsplit
      rw [hsplit, hfailed, hcall]
      simp [ofRuns, ofAnswers, completeRuns_cut hne hrun e]
    · rw [hsplit, hcall]
      have hrows : (run ++ rest).isEmpty = false := by simpa using fun h => absurd h hne
      rcases hleaves with ⟨rfl, hfailed, hnext⟩ | ⟨hrest, hnext, hafter⟩
      · -- the last run, after which the cursor is read once more
        rw [hnext, hfailed, ofRuns, completeRuns_run hne hrun hother (.inr rfl)]
        simp [ofRuns, ofAnswers, completeRuns, hne]
      · -- a run before another one, whose first row was read already
        have hrest' : rest.isEmpty = false := by simpa using hrest
        rw [hnext, hafter, ofRuns, completeRuns_run hne hrun hother (.inl hrest)]
        simp [ofRuns, ofAnswers, hrest, hne]

/-- A load that has drained a cursor has stored its yield and counted it. -/
structure Stores (y : Yield α) (count : Nat) (c : Cursor) (t : KeyTable α)
    (result : Outcome Nat × Cursor × KeyTable α) : Prop where
  cursor : c.Continues result.2.1
  table : result.2.2 = t.insertMany y.entries
  outcome : result.1 = match y.failure with
    | some e => .error e
    | none => .ok (count + y.entries.length)

variable {made : Outcome (Option (Entry α))} {t t' : KeyTable α}

/-- What could not be stored ends the yield with that failure. -/
theorem andThen_of_store_error {e : CacheError} (h : Load.store name made t = (.error e, t')) :
    t' = t ∧ ∀ y, andThen name made y = ⟨[], some e⟩ := by
  rcases made with e' | _ | entry
  · obtain ⟨he, rfl⟩ := Prod.mk.inj h
    obtain rfl := Except.error.inj he
    exact ⟨rfl, fun _ => rfl⟩
  · obtain ⟨he, rfl⟩ := Prod.mk.inj h
    obtain rfl := Except.error.inj he
    exact ⟨rfl, fun _ => rfl⟩
  · cases h

/-- What was stored comes before the rest of the yield. -/
theorem andThen_of_store_ok (h : Load.store name made t = (.ok (), t')) :
    ∃ entry, t' = t.insert entry ∧
      ∀ y, andThen name made y = ⟨entry :: y.entries, y.failure⟩ := by
  rcases made with e | _ | entry
  · cases h
  · cases h
  · obtain ⟨-, rfl⟩ := Prod.mk.inj h
    exact ⟨entry, rfl, fun _ => rfl⟩

/-- After an entry was stored, the rest is stored on top of it. -/
theorem Stores.cons {y : Yield α} {count : Nat} {c c' : Cursor} {entry : Entry α}
    {result : Outcome Nat × Cursor × KeyTable α} (hc : c.Continues c')
    (h : Stores y (count + 1) c' (t.insert entry) result) :
    Stores ⟨entry :: y.entries, y.failure⟩ count c t result where
  cursor := hc.trans h.cursor
  table := h.table
  outcome := by
    rw [h.outcome]
    have hcount : count + 1 + y.entries.length = count + (entry :: y.entries).length := by
      rw [List.length_cons]
      omega
    rw [hcount]

/-! ## Whole loads -/

/-- To drain rows stores what is made of the delivered ones. -/
theorem drainRows_stores (entry : Row → Outcome (Option (Entry α))) (count : Nat) (c : Cursor)
    (t : KeyTable α) :
    Stores (ofAnswers name (c.delivered.1.map entry) c.delivered.2) count c t
      (Load.drainRows name entry count c t) := by
  -- along the rows: a read that fails, the end, an entry that cannot be stored, and one that can
  fun_induction Load.drainRows name entry count c t with
  | case1 count c t e rest hn =>
    have hcursor := Cursor.continues_of_next hn
    rw [Cursor.delivered_of_error hn]
    exact ⟨hcursor, rfl, rfl⟩
  | case2 count c t rest hn =>
    have hcursor := Cursor.continues_of_next hn
    rw [(Cursor.delivered_of_none hn).1]
    exact ⟨hcursor, rfl, rfl⟩
  | case3 count c t row rest hn e t' hstore =>
    have hcursor := Cursor.continues_of_next hn
    obtain ⟨rfl, hand⟩ := andThen_of_store_error hstore
    rw [(Cursor.delivered_of_some hn).1, List.map_cons, ofAnswers_cons, hand]
    exact ⟨hcursor, rfl, rfl⟩
  | case4 count c t row rest hn t' hstore ih =>
    have hcursor := Cursor.continues_of_next hn
    obtain ⟨e, rfl, hand⟩ := andThen_of_store_ok hstore
    rw [(Cursor.delivered_of_some hn).1, List.map_cons, ofAnswers_cons, hand]
    exact Stores.cons hcursor ih

/-- To drain runs stores what is made of the complete ones. -/
theorem drainRuns_stores (groupKey : Row → Outcome Key)
    (combine : List Row → Outcome (Option (Entry α))) (count : Nat) (r : Runs) (t : KeyTable α) :
    Stores (ofStream name groupKey combine r) count r.cursor t
      (Load.drainRuns name groupKey combine count r t) := by
  -- along the runs, in the same four cases
  fun_induction Load.drainRuns name groupKey combine count r t with
  | case1 count r t e rest hn =>
    have hcursor := (Runs.next_spec groupKey r).1
    rw [ofStream_next, hn]
    rw [hn] at hcursor
    exact ⟨hcursor, rfl, rfl⟩
  | case2 count r t rest hn =>
    have hcursor := (Runs.next_spec groupKey r).1
    rw [ofStream_next, hn]
    rw [hn] at hcursor
    exact ⟨hcursor, rfl, rfl⟩
  | case3 count r t run rest hn e t' hstore =>
    have hcursor := (Runs.next_spec groupKey r).1
    obtain ⟨rfl, hand⟩ := andThen_of_store_error hstore
    rw [ofStream_next, hn]
    rw [hn] at hcursor
    simp only [hand]
    exact ⟨hcursor, rfl, rfl⟩
  | case4 count r t run rest hn t' hstore ih =>
    have hcursor := (Runs.next_spec groupKey r).1
    obtain ⟨e, rfl, hand⟩ := andThen_of_store_ok hstore
    rw [ofStream_next, hn]
    rw [hn] at hcursor
    simp only [hand]
    exact Stores.cons hcursor ih

/-- Draining stores the yield of the cursor. -/
theorem drain_stores (i : Interpreter α) (c : Cursor) (t : KeyTable α) :
    Stores (i.yield c) 0 c t (Load.drain i c t) := by
  cases i with
  | perRow name entry => exact drainRows_stores entry 0 c t
  | perRun name groupKey combine =>
    exact drainRuns_stores groupKey combine 0 { cursor := c } t

end Yield

/-- A load stores the yield of the cursor, answers its outcome, and closes the cursor. -/
theorem load_spec (t : KeyTable α) (i : Interpreter α) (c : Cursor) :
    (t.load i c).2.2 = t.insertMany (i.yield c).entries ∧
      (t.load i c).1 = (i.yield c).outcome c.closing ∧
      (t.load i c).2.1.closes = c.closes + 1 ∧ (t.load i c).2.1.rows = [] := by
  have hstores := Yield.drain_stores i c t
  unfold KeyTable.load
  generalize Load.drain i c t = result at hstores
  rcases result with ⟨drained, after, table⟩
  obtain ⟨hcursor, htable, houtcome⟩ := hstores
  dsimp only at hcursor htable houtcome ⊢
  refine ⟨htable, ?_, ?_, rfl⟩
  · unfold Yield.outcome Cursor.close
    rw [houtcome, hcursor.closing, Nat.zero_add]
    -- closing can only add a failure where there was none
    cases (i.yield c).failure with
    | some e => rfl
    | none => cases c.closing <;> rfl
  · exact congrArg (· + 1) hcursor.closes

/-- A load stores exactly the entries that are made before the first failure, in order: each takes
the place of the one under the same key in normal form, and no other key is touched. It answers how
many entries it has stored, unless something fails on the way or in closing, and then the first
failure; the cursor is closed once in either case. -/
theorem load_eq_yield (t : KeyTable α) (i : Interpreter α) (c : Cursor) :
    (t.load i c).2.2 = t.insertMany (i.yield c).entries ∧
      (∀ key, (t.load i c).2.2.get? key =
        (KeyTable.lastValue? (i.yield c).entries key).or (t.get? key)) ∧
      (t.load i c).1 = (i.yield c).outcome c.closing ∧
      (t.load i c).2.1.closes = c.closes + 1 ∧ (t.load i c).2.1.rows = [] := by
  obtain ⟨htable, houtcome, hclosed⟩ := load_spec t i c
  refine ⟨htable, ?_, houtcome, hclosed⟩
  intro key
  rw [htable]
  exact KeyTable.get?_insertMany t _ key

end CacheService
