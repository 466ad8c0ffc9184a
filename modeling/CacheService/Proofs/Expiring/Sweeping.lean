import CacheService.Expiring.Sweeper
import CacheService.Proofs.Expiring.Keeping

/-!
# When a store is swept, and what a sweep removes

Every read is counted, whatever it finds, and the reads whose number is a multiple of the period
sweep the store before they look at their key. A sweep removes the entries that have expired at its
reading of the clock, and nothing else (`SweptAt`). Between sweeps a read removes its own key at
most (`sweeps_on_schedule`).
-/

namespace CacheService
namespace ObjectStore

variable {κ α : Type}

/-! ## Counting reads -/

def Call.isGet (c : Call κ α) : Bool :=
  match c.operation with
  | .get _ => true
  | _ => false

variable [Ord κ]

/-- The store has been through so many reads, and sweeps by the same rule. -/
structure Counts (s : ObjectStore κ α) (reads : Nat) (s' : ObjectStore κ α) : Prop where
  sweepEvery : s'.sweepEvery = s.sweepEvery
  sweeping : s'.sweeping = s.sweeping
  reads : s'.reads = s.reads + reads

theorem Counts.refl (s : ObjectStore κ α) : Counts s 0 s :=
  ⟨rfl, rfl, rfl⟩

theorem Counts.trans {s s' s'' : ObjectStore κ α} {m n : Nat} (h : Counts s m s')
    (h' : Counts s' n s'') : Counts s (m + n) s'' where
  sweepEvery := h'.sweepEvery.trans h.sweepEvery
  sweeping := h'.sweeping.trans h.sweeping
  reads := by rw [h'.reads, h.reads, Nat.add_assoc]

/-- A sweep counts no read. -/
theorem counts_clean (s : ObjectStore κ α) (now : UInt64) : Counts s 0 (s.clean now).2 := by
  unfold clean
  split <;> exact ⟨rfl, rfl, rfl⟩

theorem counts_cleanAll (s : ObjectStore κ α) (times : List UInt64) :
    Counts s 0 (s.cleanAll times) := by
  induction times generalizing s with
  | nil => exact .refl s
  | cons time rest ih => exact (counts_clean s time).trans (ih _)

/-- What comes before an operation counts it if it is a read. -/
theorem counts_prepare (s : ObjectStore κ α) (c : Call κ α) :
    Counts s c.isGet.toNat (s.prepare c) := by
  rcases c with ⟨operation, sweepTime, background, now⟩
  cases operation with
  | get key =>
    -- the read is counted first, and nothing that follows counts again
    have hcounted : Counts s 1 s.countRead.2 := ⟨rfl, rfl, rfl⟩
    unfold prepare
    cases hdue : s.countRead.1 with
    | true =>
      exact (hcounted.trans (counts_clean _ sweepTime)).trans (counts_cleanAll _ background)
    | false => exact hcounted.trans (counts_cleanAll _ background)
  | _ => exact counts_cleanAll s background

variable [Std.TransOrd κ]

/-- To touch the table counts nothing, whatever is found there. -/
theorem counts_act (s : ObjectStore κ α) (now : UInt64) (access : Access κ α) :
    Counts s 0 (s.act now access).2 := by
  cases access with
  | put key item lifetime => exact ⟨rfl, rfl, rfl⟩
  | guarantee key seconds =>
    rcases guaranteeAt_cases s now seconds key with ⟨t, -, hgiven⟩ | hnot
    · simp only [act, hgiven]
      exact ⟨rfl, rfl, rfl⟩
    · simp only [act, hnot]
      exact .refl s
  | read key =>
    rcases readAt_cases s now key with ⟨t, -, -, hevicted⟩ | hkept
    · simp only [act, hevicted]
      exact ⟨rfl, rfl, rfl⟩
    · simp only [act, hkept]
      exact .refl s
  | remove key => exact ⟨rfl, rfl, rfl⟩
  | remaining key => exact .refl s

/-- A whole call counts one read if it is a `get`, and none otherwise. -/
theorem counts_serve (s : ObjectStore κ α) (c : Call κ α) :
    Counts s c.isGet.toNat (s.serve c).2 := by
  have hprepared := counts_prepare s c
  rcases c with ⟨operation, sweepTime, background, now⟩
  cases operation with
  | reset =>
    have hreset (s : ObjectStore κ α) : Counts s 0 s.reset := ⟨rfl, rfl, rfl⟩
    exact hprepared.trans (hreset _)
  | clean => exact hprepared.trans (counts_clean _ now)
  | put key item lifetime => exact hprepared.trans (counts_act _ now (.put key item lifetime))
  | guarantee key seconds => exact hprepared.trans (counts_act _ now (.guarantee key seconds))
  | get key => exact hprepared.trans (counts_act _ now (.read key))
  | remove key => exact hprepared.trans (counts_act _ now (.remove key))
  | remaining key => exact hprepared.trans (counts_act _ now (.remaining key))

def afterCalls (s : ObjectStore κ α) (calls : List (Call κ α)) : ObjectStore κ α :=
  calls.foldl (fun s c => (s.serve c).2) s

/-- Calls in a row count the reads among them. -/
theorem counts_afterCalls (s : ObjectStore κ α) (calls : List (Call κ α)) :
    Counts s (calls.countP Call.isGet) (s.afterCalls calls) := by
  induction calls generalizing s with
  | nil => exact .refl s
  | cons c rest ih =>
    have hcount : (c :: rest).countP Call.isGet = c.isGet.toNat + rest.countP Call.isGet := by
      rw [List.countP_cons, Nat.add_comm]
      cases c.isGet <;> rfl
    rw [hcount]
    exact (counts_serve s c).trans (ih _)

/-! ## What a sweep removes -/

/-- A sweep at a reading of the clock: the entries that have expired by then are gone and counted,
all others are as they were, and so what is left expires later. -/
structure SweptAt (s : ObjectStore κ α) (now : UInt64) (removed : Nat) (s' : ObjectStore κ α) :
    Prop where
  removed : removed = s.entries.toList.countP fun entry => entry.2.deadline ≤ now
  entries : ∀ key : κ,
    s'.entries[key]? = s.entries[key]?.filter fun t : Timed α => now < t.deadline
  left : ∀ (key : κ) (t : Timed α), s'.entries[key]? = some t → now < t.deadline
  rest : s' = { s with entries := s'.entries }

omit [Std.TransOrd κ] in
theorem clean_of_idle {s : ObjectStore κ α} (hs : s.sweeping = false) (now : UInt64) :
    s.clean now = s.sweepAt now := by
  simp [clean, hs]

variable [Std.LawfulEqOrd κ]

/-- A sweep keeps what expires later. -/
theorem getElem?_sweepAt (s : ObjectStore κ α) (now : UInt64) (key : κ) :
    (s.sweepAt now).2.entries[key]? =
      s.entries[key]?.filter fun t : Timed α => now < t.deadline := by
  simp only [sweepAt, Std.ExtTreeMap.getElem?_filter']
  congr 1
  funext t
  simp [Timed.isExpired, ← UInt64.not_le]

/-- A sweep answers the number of the entries that had expired. -/
theorem sweptAt_sweepAt (s : ObjectStore κ α) (now : UInt64) :
    SweptAt s now (s.sweepAt now).1 (s.sweepAt now).2 where
  removed := by
    have hlive : (s.entries.filter fun _ t => !t.isExpired now).size =
        s.entries.toList.countP fun entry => !entry.2.isExpired now := by
      rw [← Std.ExtTreeMap.length_toList, Std.ExtTreeMap.toList_filter,
        List.countP_eq_length_filter]
    have hsplit := List.length_eq_countP_add_countP (l := s.entries.toList)
      fun entry => !entry.2.isExpired now
    rw [Std.ExtTreeMap.length_toList] at hsplit
    -- what is not live is what is past its deadline
    have hgone : s.entries.toList.countP (fun entry => decide ¬(!entry.2.isExpired now) = true) =
        s.entries.toList.countP fun entry => entry.2.deadline ≤ now := by
      congr 1
      funext entry
      simp [Timed.isExpired]
    simp only [sweepAt]
    omega
  entries := getElem?_sweepAt s now
  left := by
    intro key t ht
    rw [getElem?_sweepAt, Option.filter_eq_some_iff] at ht
    exact of_decide_eq_true ht.2
  rest := rfl

theorem sweptAt_clean {s : ObjectStore κ α} (hs : s.sweeping = false) (now : UInt64) :
    SweptAt s now (s.clean now).1 (s.clean now).2 := by
  rw [clean_of_idle hs]
  exact sweptAt_sweepAt s now

/-- To sweep again at the same reading changes nothing. -/
theorem sweepAt_sweepAt (s : ObjectStore κ α) (now : UInt64) :
    ((s.sweepAt now).2.sweepAt now).2 = (s.sweepAt now).2 := by
  have hentries : ((s.sweepAt now).2.sweepAt now).2.entries = (s.sweepAt now).2.entries := by
    apply Std.ExtTreeMap.ext_getElem?
    intro key
    rw [getElem?_sweepAt, getElem?_sweepAt]
    cases s.entries[key]? with
    | none => rfl
    | some t => by_cases hlive : now < t.deadline <;> simp [Option.filter, hlive]
  rw [(sweptAt_sweepAt (s.sweepAt now).2 now).rest, hentries]

/-- While the clock stands still, a task has swept the store as soon as its interval is over. -/
theorem run_eq {s : ObjectStore κ α} (hs : s.sweeping = false) (t : Sweeper)
    (ht : t.elapsed < t.interval) (now : UInt64) (seconds : Nat) :
    (t.run now s seconds).2 =
      if t.interval ≤ t.elapsed + seconds then (s.sweepAt now).2 else s := by
  -- after the first sweep the others find nothing to remove, however long the task goes on
  induction seconds generalizing t s with
  | zero => rw [Sweeper.run, if_neg (by omega)]
  | succ n ih =>
    rw [Sweeper.run]
    by_cases hdue : t.elapsed + 1 < t.interval
    · -- the second passes and nothing happens
      have hsecond : t.second = (false, { t with elapsed := t.elapsed + 1 }) := by
        rw [Sweeper.second, if_pos hdue]
      simp only [hsecond, Bool.false_eq_true, if_false]
      rw [ih hs _ hdue]
      have hsum : t.elapsed + 1 + n = t.elapsed + (n + 1) := by omega
      rw [hsum]
    · have hsecond : t.second = (true, { t with elapsed := 0 }) := by
        rw [Sweeper.second, if_neg hdue]
      simp only [hsecond, if_true, clean_of_idle hs]
      have hswept : (s.sweepAt now).2.sweeping = false := hs
      rw [ih hswept _ t.interval_pos, sweepAt_sweepAt, ite_self, if_pos (by omega)]

/-! ## The schedule -/

/-- A read that does not sweep removes its key at most, and only if that has expired. -/
theorem read_removes (s : ObjectStore κ α) (now : UInt64) (key : κ) :
    (∀ other, other ≠ key → (s.readAt now key).2.entries[other]? = s.entries[other]?) ∧
      ((s.readAt now key).2.entries[key]? = s.entries[key]? ∨
        (s.readAt now key).2.entries[key]? = none ∧
          ∃ t, s.entries[key]? = some t ∧ t.deadline ≤ now) := by
  rcases readAt_cases s now key with ⟨t, ht, hdue, hevicted⟩ | hkept
  · rw [hevicted]
    exact ⟨fun other hother => getElem?_erase_of_ne _ (Ne.symm hother),
      .inr ⟨Std.ExtTreeMap.getElem?_erase_self, t, ht, hdue⟩⟩
  · rw [hkept]
    exact ⟨fun _ _ => rfl, .inl rfl⟩

omit [Std.TransOrd κ] [Std.LawfulEqOrd κ] in
/-- Whether a read sweeps is decided by its number alone. -/
theorem start_get {s : ObjectStore κ α} (hs : s.sweeping = false) {number period : Nat}
    (hnumber : s.reads + 1 = number) (hperiod : s.sweepEvery = period) (key : κ) :
    (s.start (.get key)).1 =
      if number % period = 0 then .sweepReading (.read key) else .reading (.read key) := by
  subst hnumber hperiod
  by_cases hdue : (s.reads + 1) % s.sweepEvery = 0 <;>
    simp [start, countRead, beginSweep?, hs, hdue]

omit [Std.LawfulEqOrd κ] in
/-- A read counts itself, sweeps if its number is a multiple of the period, and only then looks at
its key. -/
theorem serve_get {s : ObjectStore κ α} (hs : s.sweeping = false) {number period : Nat}
    (hnumber : s.reads + 1 = number) (hperiod : s.sweepEvery = period) (key : κ)
    (sweepTime now : UInt64) (background : List UInt64) :
    s.serve ⟨.get key, sweepTime, background, now⟩ =
      ((if number % period = 0 then ({ s with reads := number }.sweepAt sweepTime).2
        else { s with reads := number }).cleanAll background).act now (.read key) := by
  subst hnumber hperiod
  have hclean := clean_of_idle (s := { s with reads := s.reads + 1 }) hs sweepTime
  by_cases hdue : (s.reads + 1) % s.sweepEvery = 0 <;>
    simp [serve, prepare, countRead, hdue, hclean]

/-- After any calls on a new store, however the clock moves: the next read begins with a sweep if
and only if its number among all reads is a multiple of the period, and looks at its key after that.
A sweep of a store that nobody else is sweeping, be it by a read, by itself or by the task, removes
exactly the entries whose deadline is not after its reading of the clock, answers how many these
are, and leaves the others as they are. A read that does not sweep removes its own key at most, and
only if that has expired. -/
theorem sweeps_on_schedule (lifetime : UInt64) (every : Nat) (calls : List (Call κ α)) (key : κ)
    (sweepTime now : UInt64) :
    let s : ObjectStore κ α := (new lifetime every).afterCalls calls
    let number := calls.countP Call.isGet + 1
    s.sweeping = false ∧
    (s.start (.get key)).1 =
      (if number % max every 1 = 0 then .sweepReading (.read key) else .reading (.read key)) ∧
    (∀ background, s.serve ⟨.get key, sweepTime, background, now⟩ =
      ((if number % max every 1 = 0 then ({ s with reads := number }.sweepAt sweepTime).2
        else { s with reads := number }).cleanAll background).act now (.read key)) ∧
    SweptAt { s with reads := number } sweepTime ({ s with reads := number }.sweepAt sweepTime).1
      ({ s with reads := number }.sweepAt sweepTime).2 ∧
    s.serve ⟨.clean, sweepTime, [], now⟩ = (.removed (s.clean now).1, (s.clean now).2) ∧
    SweptAt s now (s.clean now).1 (s.clean now).2 ∧
    (∀ interval seconds, ((Sweeper.new interval).run now s seconds).2 =
      if max interval 1 ≤ seconds then (s.clean now).2 else s) ∧
    (number % max every 1 ≠ 0 →
      let s' := (s.serve ⟨.get key, sweepTime, [], now⟩).2
      (∀ other, other ≠ key → s'.entries[other]? = s.entries[other]?) ∧
        (s'.entries[key]? = s.entries[key]? ∨
          s'.entries[key]? = none ∧ ∃ t, s.entries[key]? = some t ∧ t.deadline ≤ now)) := by
  intro s number
  -- the calls before have counted every read and left no sweep active
  have hcounts := counts_afterCalls (new lifetime every : ObjectStore κ α) calls
  have hidle : s.sweeping = false := hcounts.sweeping
  have hreads : s.reads + 1 = number := by
    rw [hcounts.reads]
    exact congrArg (· + 1) (Nat.zero_add _)
  have hevery : s.sweepEvery = max every 1 := hcounts.sweepEvery
  have hserve := serve_get hidle hreads hevery key sweepTime now
  refine ⟨hidle, start_get hidle hreads hevery key, hserve, sweptAt_sweepAt _ sweepTime,
    rfl, sweptAt_clean hidle now, ?_, ?_⟩
  · intro interval seconds
    have hrun := run_eq hidle (.new interval) (Sweeper.new interval).interval_pos now seconds
    rw [hrun, clean_of_idle hidle]
    simp [Sweeper.new]
  · intro hnot
    rw [hserve [], if_neg hnot]
    exact read_removes { s with reads := number } now key

/-- An item that lasts a second, and reads that miss and hit. -/
def twoReads : List (Call Nat String) :=
  [⟨.put 1 "item" (some 1), 0, [], 0⟩, ⟨.get 2, 0, [], 0⟩, ⟨.get 1, 0, [], 0⟩]

/-- The third read sweeps the item away, and looks for another one. -/
theorem sweeps_on_schedule_third :
    (((new 60 3).afterCalls twoReads).start (.get 9)).1 = .sweepReading (.read 9) ∧
      ({ (new 60 3).afterCalls twoReads with reads := 3 }.sweepAt 2000).1 = 1 ∧
      (((new 60 3).afterCalls twoReads).clean 999).1 = 0 := by
  obtain ⟨-, hstart, -, hswept, -⟩ := sweeps_on_schedule 60 3 twoReads 9 2000 2000
  obtain ⟨-, -, -, -, -, hearly, -⟩ := sweeps_on_schedule 60 3 twoReads 9 999 999
  exact ⟨hstart, hswept.removed.trans (by decide +kernel), hearly.removed.trans (by decide +kernel)⟩

end ObjectStore
end CacheService
