import CacheService.Expiring.Step
import Mathlib.Logic.Function.Basic

/-!
# Stores against ledgers that never evict

A ledger notes an item and a deadline for each key and never forgets an entry because it has
expired. A store removes expired entries when it meets them, in every so many reads, and whenever
someone sweeps. As long as the clock does not go back, nobody can tell the two apart by what they
answer (`answers_eq_ledger`).

The two are related by `Follows`: what the store has is what the ledger has noted, and what the
store has no more was expired at the last reading of the clock.
-/

namespace CacheService

open Function

/-! ## Ledgers -/

/-- An item and a deadline for each key that has ever been stored. -/
abbrev Ledger (κ α : Type) : Type :=
  κ → Option (α × Nat)

namespace Ledger

open ObjectStore (Operation Answer)

variable {κ α : Type} [DecidableEq κ]

/-- The deadline of an item that lasts a number of seconds from now on, at most the last time that
64 bits can tell. -/
def deadline (now seconds : UInt64) : Nat :=
  min (now.toNat + 1000 * seconds.toNat) (UInt64.size - 1)

/-- The entry of a key, seen before its deadline only. -/
def live (l : Ledger κ α) (now : UInt64) (key : κ) : Option (α × Nat) :=
  (l key).filter fun entry => now.toNat < entry.2

/-- What an operation answers at a reading of the clock, and what it notes. -/
def serve (lifetime : UInt64) (l : Ledger κ α) (now : UInt64) :
    Operation κ α → Answer α × Ledger κ α
  | .put key item seconds =>
    (.done, update l key (some (item, deadline now (seconds.getD lifetime))))
  | .guarantee key seconds =>
    match l.live now key with
    | some (item, until') =>
      (.flag true, update l key (some (item, max until' (deadline now seconds))))
    | none => (.flag false, l)
  | .get key => (.item ((l.live now key).map Prod.fst), l)
  | .remove key => (.item ((l.live now key).map Prod.fst), update l key none)
  | .remaining key =>
    (.remaining ((l.live now key).map fun entry => UInt64.ofNat (entry.2 - now.toNat)), l)
  | .clean => (.removed 0, l)
  | .reset => (.done, fun _ => none)

def answers (lifetime : UInt64) (l : Ledger κ α) : List (Operation κ α × UInt64) → List (Answer α)
  | [] => []
  | (operation, now) :: rest =>
    (l.serve lifetime now operation).1 :: answers lifetime (l.serve lifetime now operation).2 rest

end Ledger

namespace ObjectStore

/-! ## Calls -/

/-- An operation that is called, and what the clock shows meanwhile. -/
structure Call (κ α : Type) where
  operation : Operation κ α
  /-- the reading of the sweep that the operation makes first, if it makes one -/
  sweepTime : UInt64
  /-- the readings of sweeps that others make before the operation reads the clock itself -/
  background : List UInt64
  /-- the reading of the operation itself -/
  now : UInt64

namespace Call

variable {κ α : Type}

def readings (c : Call κ α) : List UInt64 :=
  c.sweepTime :: (c.background ++ [c.now])

/-- The operation and its own reading, unless it is only a sweep. -/
def asked (c : Call κ α) : Option (Operation κ α × UInt64) :=
  match c.operation with
  | .clean => none
  | operation => some (operation, c.now)

end Call

variable {κ α : Type} [Ord κ] [Std.TransOrd κ]

def cleanAll (s : ObjectStore κ α) (times : List UInt64) : ObjectStore κ α :=
  times.foldl (fun s time => (s.clean time).2) s

/-- What happens to a store before an operation reads the clock itself. -/
def prepare (s : ObjectStore κ α) (c : Call κ α) : ObjectStore κ α :=
  let s :=
    match c.operation with
    | .get _ => if s.countRead.1 then (s.countRead.2.clean c.sweepTime).2 else s.countRead.2
    | _ => s
  s.cleanAll c.background

def serve (s : ObjectStore κ α) (c : Call κ α) : Answer α × ObjectStore κ α :=
  let s := s.prepare c
  match c.operation with
  | .put key item lifetime => s.act c.now (.put key item lifetime)
  | .guarantee key seconds => s.act c.now (.guarantee key seconds)
  | .get key => s.act c.now (.read key)
  | .remove key => s.act c.now (.remove key)
  | .remaining key => s.act c.now (.remaining key)
  | .clean => (.removed (s.clean c.now).1, (s.clean c.now).2)
  | .reset => (.done, s.reset)

/-! ## Calls in steps -/

/-- Sweeps that others start and finish, one after the other. -/
def sweepsOfOthers (s : ObjectStore κ α) (times : List UInt64) : ObjectStore κ α :=
  times.foldl (fun s time => (s.perform time .clean).2) s

/-- Takes the three steps of the sweep that an operation has begun, if it has begun one. -/
def endSweep (s : ObjectStore κ α) (clock : UInt64) :
    Stage κ α → Stage κ α × ObjectStore κ α
  | .sweepReading occasion => s.steps clock (.sweepReading occasion) 3
  | stage => (stage, s)

/-- A call in its own steps and the whole sweeps of others, each at a reading of its own. A sweep
marks the store when it starts and a reset touches the table then, so both start after the others.
Any other operation is about to read the clock for itself when the others come. -/
def stepwise (s : ObjectStore κ α) (c : Call κ α) : Answer α × ObjectStore κ α :=
  match c.operation with
  | .clean | .reset => (s.sweepsOfOthers c.background).perform c.now c.operation
  | operation =>
    let (stage, s) := s.start operation
    let (stage, s) := s.endSweep c.sweepTime stage
    (s.sweepsOfOthers c.background).finish c.now stage

/-- On a store that nobody is sweeping, the steps of a sweep are a whole sweep. -/
theorem perform_clean {s : ObjectStore κ α} (hs : s.sweeping = false) (time : UInt64) :
    s.perform time .clean = (.removed (s.clean time).1, (s.clean time).2) := by
  rcases s with ⟨entries, lifetime, every, hevery, reads, sweeping⟩
  obtain rfl : sweeping = false := hs
  rfl

omit [Std.TransOrd κ] in
/-- A whole sweep leaves the mark as it was. -/
theorem sweeping_clean (s : ObjectStore κ α) (time : UInt64) :
    (s.clean time).2.sweeping = s.sweeping := by
  unfold clean
  split <;> rfl

omit [Std.TransOrd κ] in
theorem sweeping_cleanAll (s : ObjectStore κ α) (times : List UInt64) :
    (s.cleanAll times).sweeping = s.sweeping := by
  induction times generalizing s with
  | nil => rfl
  | cons time rest ih => exact (ih (s.clean time).2).trans (sweeping_clean s time)

/-- Each sweep leaves the store without its mark, so the next one is not kept from it. -/
theorem sweepsOfOthers_eq {s : ObjectStore κ α} (hs : s.sweeping = false) (times : List UInt64) :
    s.sweepsOfOthers times = s.cleanAll times := by
  induction times generalizing s with
  | nil => rfl
  | cons time rest ih =>
    unfold sweepsOfOthers cleanAll
    rw [List.foldl_cons, List.foldl_cons, perform_clean hs]
    -- the mark is gone before the next one starts
    exact ih ((sweeping_clean s time).trans hs)

/-- The sweep of a read is a whole sweep, after which the read goes on. -/
theorem endSweep_start_get {s : ObjectStore κ α} (hs : s.sweeping = false) (clock : UInt64)
    (key : κ) :
    (s.start (.get key)).2.endSweep clock (s.start (.get key)).1 =
      (.reading (.read key),
        if s.countRead.1 then (s.countRead.2.clean clock).2 else s.countRead.2) := by
  rcases s with ⟨entries, lifetime, every, hevery, reads, sweeping⟩
  obtain rfl : sweeping = false := hs
  cases hdue : (reads + 1) % every == 0 <;>
    simp [start, countRead, hdue, beginSweep?, endSweep, steps, step, clean, sweepAt]

/-- On a store that nobody is sweeping, a whole call is its steps with the sweeps of others in
between, whatever the clock shows to each of them. -/
theorem serve_eq_stepwise {s : ObjectStore κ α} (hs : s.sweeping = false) (c : Call κ α) :
    s.serve c = s.stepwise c := by
  have hothers := sweepsOfOthers_eq hs c.background
  have hmark : (s.cleanAll c.background).sweeping = false := (sweeping_cleanAll s _).trans hs
  rcases c with ⟨operation, sweepTime, background, now⟩
  cases operation with
  | clean => simp [serve, prepare, stepwise, hothers, perform_clean hmark]
  | reset =>
    simp only [stepwise, hothers]
    rfl
  | get key =>
    -- its own sweep comes first, and leaves the store without a mark
    have hcounted : (if s.countRead.1 then (s.countRead.2.clean sweepTime).2
        else s.countRead.2).sweeping = false := by
      split
      · exact (sweeping_clean _ _).trans hs
      · exact hs
    simp only [stepwise, endSweep_start_get hs, sweepsOfOthers_eq hcounted]
    rfl
  | put | guarantee | remove | remaining =>
    -- these do nothing before they read the clock
    simp only [stepwise, start, endSweep, hothers]
    rfl

/-! ## What the ledger says about a store -/

/-- What a store has is what the ledger has noted, and what it has not is expired. -/
structure Follows (lifetime : UInt64) (s : ObjectStore κ α) (l : Ledger κ α) (now : UInt64) :
    Prop where
  lifetime : s.defaultLifetime = lifetime
  kept : ∀ key t, s.entries[key]? = some t → l key = some (t.item, t.deadline.toNat)
  gone : ∀ key entry, s.entries[key]? = none → l key = some entry → entry.2 ≤ now.toNat

def live (s : ObjectStore κ α) (now : UInt64) (key : κ) : Option (Timed α) :=
  s.entries[key]?.filter fun t => !t.isExpired now

namespace Follows

variable {lifetime now now' : UInt64} {s : ObjectStore κ α} {l : Ledger κ α}

/-- What is expired stays expired. -/
theorem later (h : Follows lifetime s l now) (hle : now ≤ now') : Follows lifetime s l now' where
  lifetime := h.lifetime
  kept := h.kept
  gone := by
    intro key entry hnone hentry
    have hexpired := h.gone key entry hnone hentry
    have hclock := UInt64.le_iff_toNat_le.1 hle
    exact Nat.le_trans hexpired hclock

theorem isExpired_eq_false_iff (t : Timed α) (now : UInt64) :
    t.isExpired now = false ↔ now.toNat < t.deadline.toNat := by
  simp [Timed.isExpired, UInt64.lt_iff_toNat_lt]

theorem isExpired_iff (t : Timed α) (now : UInt64) :
    t.isExpired now = true ↔ t.deadline.toNat ≤ now.toNat := by
  simp [Timed.isExpired, UInt64.le_iff_toNat_le]

/-- What has expired in the store has expired in the ledger. -/
theorem expired (h : Follows lifetime s l now) {key : κ} {t : Timed α} {entry : α × Nat}
    (ht : s.entries[key]? = some t) (hexpired : t.isExpired now = true)
    (hentry : l key = some entry) : entry.2 ≤ now.toNat := by
  have hnoted : some (t.item, t.deadline.toNat) = some entry := (h.kept key t ht).symm.trans hentry
  rw [← Option.some.inj hnoted]
  exact (isExpired_iff t now).1 hexpired

/-- Store and ledger see the same entries. -/
theorem live_eq (h : Follows lifetime s l now) (key : κ) :
    l.live now key = (s.live now key).map fun t => (t.item, t.deadline.toNat) := by
  unfold Ledger.live live
  cases he : s.entries[key]? with
  | some t =>
    rw [h.kept key t he]
    by_cases hexpired : t.isExpired now = false
    · have hlive := (isExpired_eq_false_iff t now).1 hexpired
      simp [Option.filter, hexpired, hlive]
    · have hdead : ¬ now.toNat < t.deadline.toNat := by
        intro hlt
        exact hexpired ((isExpired_eq_false_iff t now).2 hlt)
      have hexpired : t.isExpired now = true := by simpa using hexpired
      simp [Option.filter, hexpired, hdead]
  | none =>
    -- what the ledger has noted about the key is expired
    cases hl : l key with
    | none => rfl
    | some entry =>
      have hexpired := h.gone key entry he hl
      have hdead : ¬ now.toNat < entry.2 := by omega
      simp [Option.filter, hdead]

variable [Std.LawfulEqOrd κ]

/-- A sweep removes what the ledger calls expired. -/
theorem sweepAt (h : Follows lifetime s l now) : Follows lifetime (s.sweepAt now).2 l now where
  lifetime := h.lifetime
  kept := by
    intro key t ht
    simp only [ObjectStore.sweepAt, Std.ExtTreeMap.getElem?_filter'] at ht
    -- a sweep only takes entries away, so what is left was there before
    have hbefore : s.entries[key]? = some t := (Option.filter_eq_some_iff.1 ht).1
    exact h.kept key t hbefore
  gone := by
    intro key entry hnone hentry
    simp only [ObjectStore.sweepAt, Std.ExtTreeMap.getElem?_filter'] at hnone
    cases he : s.entries[key]? with
    | none => exact h.gone key entry he hentry
    | some t =>
      -- the sweep has taken it away, so it had expired
      have hexpired : t.isExpired now = true := by simpa [he] using hnone
      exact h.expired he hexpired hentry

/-- Whether it sweeps or leaves that to a sweep that is active, the store follows the same ledger.
-/
theorem clean (h : Follows lifetime s l now) : Follows lifetime (s.clean now).2 l now := by
  unfold ObjectStore.clean
  split
  · -- another sweep is going on
    exact h
  · exact h.sweepAt

/-- Sweeps while the clock goes on. -/
theorem cleanAll {times : List UInt64} (h : Follows lifetime s l now)
    (hclock : (now :: (times ++ [now'])).Pairwise (· ≤ ·)) :
    Follows lifetime (s.cleanAll times) l now' := by
  induction times generalizing s now with
  | nil => exact h.later (by simpa using hclock)
  | cons time rest ih =>
    rw [List.cons_append, List.pairwise_cons] at hclock
    have hnext := hclock.1 time List.mem_cons_self
    exact ih (h.later hnext).clean hclock.2

/-! ## Changes of both -/

variable [DecidableEq κ]

/-- An entry that both note. -/
theorem insert (h : Follows lifetime s l now) (key : κ) (t : Timed α) :
    Follows lifetime { s with entries := s.entries.insert key t }
      (update l key (some (t.item, t.deadline.toNat))) now where
  lifetime := h.lifetime
  kept := by
    intro k t' ht'
    simp only [Std.ExtTreeMap.getElem?_insert, Std.LawfulEqOrd.compare_eq_iff_eq] at ht'
    by_cases hk : key = k
    · subst hk
      have hsame : t = t' := by simpa using ht'
      rw [update_self, hsame]
    · rw [update_of_ne (Ne.symm hk)]
      exact h.kept k t' (by simpa [hk] using ht')
  gone := by
    intro k entry hnone hentry
    simp only [Std.ExtTreeMap.getElem?_insert, Std.LawfulEqOrd.compare_eq_iff_eq] at hnone
    by_cases hk : key = k
    · simp [hk] at hnone
    · rw [update_of_ne (Ne.symm hk)] at hentry
      exact h.gone k entry (by simpa [hk] using hnone) hentry

/-- A key that is removed from both. -/
theorem erase (h : Follows lifetime s l now) (key : κ) :
    Follows lifetime { s with entries := s.entries.erase key } (update l key none) now where
  lifetime := h.lifetime
  kept := by
    intro k t ht
    simp only [Std.ExtTreeMap.getElem?_erase, Std.LawfulEqOrd.compare_eq_iff_eq] at ht
    by_cases hk : key = k
    · simp [hk] at ht
    · rw [update_of_ne (Ne.symm hk)]
      exact h.kept k t (by simpa [hk] using ht)
  gone := by
    intro k entry hnone hentry
    simp only [Std.ExtTreeMap.getElem?_erase, Std.LawfulEqOrd.compare_eq_iff_eq] at hnone
    by_cases hk : key = k
    · simp [hk] at hentry
    · rw [update_of_ne (Ne.symm hk)] at hentry
      exact h.gone k entry (by simpa [hk] using hnone) hentry

omit [DecidableEq κ] in
/-- An expired entry that only the store forgets. -/
theorem evict (h : Follows lifetime s l now) {key : κ} {t : Timed α} (ht : s.entries[key]? = some t)
    (hexpired : t.isExpired now = true) :
    Follows lifetime { s with entries := s.entries.erase key } l now where
  lifetime := h.lifetime
  kept := by
    intro k t' ht'
    simp only [Std.ExtTreeMap.getElem?_erase, Std.LawfulEqOrd.compare_eq_iff_eq] at ht'
    by_cases hk : key = k
    · simp [hk] at ht'
    · exact h.kept k t' (by simpa [hk] using ht')
  gone := by
    intro k entry hnone hentry
    simp only [Std.ExtTreeMap.getElem?_erase, Std.LawfulEqOrd.compare_eq_iff_eq] at hnone
    by_cases hk : key = k
    · -- the ledger still has the note, but nobody sees it any more
      subst hk
      exact h.expired ht hexpired hentry
    · exact h.gone k entry (by simpa [hk] using hnone) hentry

/-! ## Calls on both -/

theorem toNat_max (a b : UInt64) : (max a b).toNat = max a.toNat b.toNat := by
  have hmax : max a b = if a ≤ b then b else a := rfl
  rw [hmax]
  split
  · rename_i hle
    have hnat := UInt64.le_iff_toNat_le.1 hle
    omega
  · rename_i hle
    rw [UInt64.le_iff_toNat_le] at hle
    omega

/-- Deadlines are noted as they are stored. -/
theorem toNat_after_eq (now seconds : UInt64) :
    (Time.after now seconds).toNat = Ledger.deadline now seconds :=
  Time.toNat_after now seconds

theorem putAt (h : Follows lifetime s l now) (key : κ) (item : α) (seconds : Option UInt64) :
    Follows lifetime (s.putAt now key item seconds)
      (l.serve lifetime now (.put key item seconds)).2 now := by
  have hinsert := h.insert key (Timed.lasting item now (seconds.getD s.defaultLifetime))
  simp only [Timed.lasting, toNat_after_eq, h.lifetime] at hinsert
  unfold ObjectStore.putAt Ledger.serve
  rw [h.lifetime]
  exact hinsert

/-- A guarantee is answered alike, and the deadline is the later one of the same two. -/
theorem guaranteeAt (h : Follows lifetime s l now) (key : κ) (seconds : UInt64) :
    .flag (s.guaranteeAt now key seconds).1 = (l.serve lifetime now (.guarantee key seconds)).1 ∧
      Follows lifetime (s.guaranteeAt now key seconds).2
        (l.serve lifetime now (.guarantee key seconds)).2 now := by
  have hlive := h.live_eq key
  unfold live at hlive
  unfold Ledger.serve ObjectStore.guaranteeAt
  cases he : s.entries[key]? with
  | none =>
    rw [he] at hlive
    simp only [hlive, Option.filter_none, Option.map_none]
    exact ⟨trivial, h⟩
  | some t =>
    cases hexpired : t.isExpired now with
    | true =>
      simp only [hlive, he, Option.filter, hexpired, Bool.not_true, Bool.false_eq_true, if_false,
        if_true, Option.map_none]
      exact ⟨trivial, h⟩
    | false =>
      -- both sides keep the later one of two deadlines
      simp only [hlive, he, Option.filter, hexpired, Bool.not_false, Bool.false_eq_true, if_false,
        if_true, Option.map_some]
      have hinsert := h.insert key (t.extend (Time.after now seconds))
      simp only [Timed.extend, toNat_max, toNat_after_eq] at hinsert
      exact ⟨trivial, hinsert⟩

omit [DecidableEq κ] in
/-- A read answers what is noted, and takes out only what has expired. -/
theorem readAt (h : Follows lifetime s l now) (key : κ) :
    (s.readAt now key).1 = (l.live now key).map Prod.fst ∧
      Follows lifetime (s.readAt now key).2 l now := by
  have hlive := h.live_eq key
  unfold live at hlive
  unfold ObjectStore.readAt
  cases he : s.entries[key]? with
  | none =>
    rw [he] at hlive
    simp only [hlive, Option.filter_none, Option.map_none]
    exact ⟨trivial, h⟩
  | some t =>
    cases hexpired : t.isExpired now with
    | true =>
      -- a read that finds an expired entry takes it away
      simp only [hlive, he, Option.filter, hexpired, Bool.not_true, Bool.false_eq_true, if_false,
        if_true, Option.map_none]
      exact ⟨trivial, h.evict he hexpired⟩
    | false =>
      simp only [hlive, he, Option.filter, hexpired, Bool.not_false, Bool.false_eq_true, if_false,
        if_true, Option.map_some]
      exact ⟨trivial, h⟩

/-- What both remove is answered if it has not expired. -/
theorem removeAt (h : Follows lifetime s l now) (key : κ) :
    (s.removeAt now key).1 = (l.live now key).map Prod.fst ∧
      Follows lifetime (s.removeAt now key).2 (update l key none) now := by
  refine ⟨?_, h.erase key⟩
  rw [h.live_eq key, Option.map_map]
  rfl

omit [Std.LawfulEqOrd κ] [DecidableEq κ] in
/-- The time that is left does not wrap around, since only live entries are asked. -/
theorem remainingAt (h : Follows lifetime s l now) (key : κ) :
    s.remainingAt now key =
      (l.live now key).map fun entry => UInt64.ofNat (entry.2 - now.toNat) := by
  rw [h.live_eq key, Option.map_map]
  unfold ObjectStore.remainingAt live
  cases he : s.entries[key]? with
  | none => rfl
  | some t =>
    cases hexpired : t.isExpired now with
    | true => simp [Option.filter, hexpired]
    | false =>
      -- before the deadline the difference of 64 bits is that of the numbers
      have hlive := (isExpired_eq_false_iff t now).1 hexpired
      have hle : now ≤ t.deadline := UInt64.le_iff_toNat_le.2 (Nat.le_of_lt hlive)
      have hnot : ¬ t.deadline ≤ now := by
        rw [UInt64.le_iff_toNat_le]
        omega
      have hleft : t.deadline - now = UInt64.ofNat (t.deadline.toNat - now.toNat) := by
        rw [← UInt64.toNat_sub_of_le _ _ hle, UInt64.ofNat_toNat]
      simp [Option.filter, hexpired, Timed.remaining, hnot, hleft]

omit [Std.LawfulEqOrd κ] [DecidableEq κ] in
theorem reset (h : Follows lifetime s l now) : Follows lifetime s.reset (fun _ => none) now where
  lifetime := h.lifetime
  kept := by
    intro key t ht
    simp [ObjectStore.reset] at ht
  gone := by
    intro key entry _ hentry
    cases hentry

omit [DecidableEq κ] in
/-- Whatever sweeps come before an operation, the store follows the same ledger. -/
theorem prepare (h : Follows lifetime s l now) (c : Call κ α)
    (hclock : (now :: c.readings).Pairwise (· ≤ ·)) : Follows lifetime (s.prepare c) l c.now := by
  obtain ⟨hfirst, hrest⟩ := List.pairwise_cons.1 hclock
  have hsweep : Follows lifetime s l c.sweepTime := h.later (hfirst _ List.mem_cons_self)
  -- counting a read changes no entry
  have hcounted : Follows lifetime s.countRead.2 l c.sweepTime :=
    ⟨hsweep.lifetime, hsweep.kept, hsweep.gone⟩
  unfold ObjectStore.prepare
  cases hop : c.operation with
  | get key =>
    cases hdue : s.countRead.1 with
    | true => exact hcounted.clean.cleanAll hrest
    | false => exact hcounted.cleanAll hrest
  | put key item seconds => exact hsweep.cleanAll hrest
  | guarantee key seconds => exact hsweep.cleanAll hrest
  | remove key => exact hsweep.cleanAll hrest
  | remaining key => exact hsweep.cleanAll hrest
  | clean => exact hsweep.cleanAll hrest
  | reset => exact hsweep.cleanAll hrest

end Follows

/-! ## Runs -/

/-- The answers to calls in a row, without those to sweeps. -/
def answers (s : ObjectStore κ α) : List (Call κ α) → List (Answer α)
  | [] => []
  | c :: rest =>
    match c.asked with
    | some _ => (s.serve c).1 :: answers (s.serve c).2 rest
    | none => answers (s.serve c).2 rest

variable [Std.LawfulEqOrd κ] [DecidableEq κ]

/-- A call is answered as by the ledger, and a sweep goes unnoticed. -/
theorem Follows.serve {lifetime now : UInt64} {s : ObjectStore κ α} {l : Ledger κ α}
    (h : Follows lifetime s l now)
    (c : Call κ α) (hclock : (now :: c.readings).Pairwise (· ≤ ·)) :
    (c.asked = none ∧ Follows lifetime (s.serve c).2 l c.now) ∨
      (c.asked = some (c.operation, c.now) ∧
        (s.serve c).1 = (l.serve lifetime c.now c.operation).1 ∧
        Follows lifetime (s.serve c).2 (l.serve lifetime c.now c.operation).2 c.now) := by
  have hprepared := h.prepare c hclock
  rcases c with ⟨operation, sweepTime, background, time⟩
  cases operation with
  | clean => exact .inl ⟨rfl, hprepared.clean⟩
  | reset => exact .inr ⟨rfl, rfl, hprepared.reset⟩
  | put key item seconds =>
    exact .inr ⟨rfl, rfl, hprepared.putAt key item seconds⟩
  | guarantee key seconds =>
    obtain ⟨hanswer, hnext⟩ := hprepared.guaranteeAt key seconds
    exact .inr ⟨rfl, hanswer, hnext⟩
  | get key =>
    obtain ⟨hitem, hnext⟩ := hprepared.readAt key
    exact .inr ⟨rfl, congrArg Answer.item hitem, hnext⟩
  | remove key =>
    obtain ⟨hitem, hnext⟩ := hprepared.removeAt key
    exact .inr ⟨rfl, congrArg Answer.item hitem, hnext⟩
  | remaining key =>
    exact .inr ⟨rfl, congrArg Answer.remaining (hprepared.remainingAt key), hprepared⟩

/-- Calls in a row are answered as by the ledger. -/
theorem Follows.answers {lifetime now : UInt64} {s : ObjectStore κ α} {l : Ledger κ α}
    (h : Follows lifetime s l now)
    (calls : List (Call κ α))
    (hclock : (now :: calls.flatMap Call.readings).Pairwise (· ≤ ·)) :
    s.answers calls = l.answers lifetime (calls.filterMap Call.asked) := by
  induction calls generalizing s l now with
  | nil => rfl
  | cons c rest ih =>
    rw [List.flatMap_cons] at hclock
    have hcall : (now :: c.readings).Pairwise (· ≤ ·) := by
      rw [← List.cons_append] at hclock
      exact (List.pairwise_append.1 hclock).1
    -- the later calls begin where the clock stands at the end of the first one
    have hrest : (c.now :: rest.flatMap Call.readings).Pairwise (· ≤ ·) := by
      have hsplit : now :: (c.readings ++ rest.flatMap Call.readings) =
          (now :: c.sweepTime :: c.background) ++ (c.now :: rest.flatMap Call.readings) := by
        simp [Call.readings]
      rw [hsplit] at hclock
      exact (List.pairwise_append.1 hclock).2.1
    unfold ObjectStore.answers
    rcases h.serve c hcall with ⟨hasked, hnext⟩ | ⟨hasked, hanswer, hnext⟩
    · -- a sweep, which the ledger does not hear of
      rw [List.filterMap_cons_none hasked, hasked]
      exact ih hnext hrest
    · rw [List.filterMap_cons_some hasked, hasked]
      have htail := ih hnext hrest
      simp only [Ledger.answers, hanswer, htail]

/-- A store that was opened with any default lifetime and any period of sweeps answers all calls
as a ledger that never evicts, as long as the clock does not go back. So the answers depend neither
on the period nor on when anybody sweeps. -/
theorem answers_eq_ledger (lifetime : UInt64) (sweepEvery : Nat) (calls : List (Call κ α))
    (hclock : (calls.flatMap Call.readings).Pairwise (· ≤ ·)) :
    (new lifetime sweepEvery).answers calls =
        Ledger.answers lifetime (fun _ => none) (calls.filterMap Call.asked) ∧
      ∀ (sweepEvery' : Nat) (calls' : List (Call κ α)),
        (calls'.flatMap Call.readings).Pairwise (· ≤ ·) →
        calls'.filterMap Call.asked = calls.filterMap Call.asked →
        (new lifetime sweepEvery').answers calls' = (new lifetime sweepEvery).answers calls := by
  have hledger : ∀ (every : Nat) (calls : List (Call κ α)),
      (calls.flatMap Call.readings).Pairwise (· ≤ ·) →
      (new lifetime every).answers calls =
        Ledger.answers lifetime (fun _ => none) (calls.filterMap Call.asked) := by
    intro every calls hclock
    -- both sides begin with nothing, before any reading
    have hempty : Follows lifetime (new lifetime every : ObjectStore κ α) (fun _ => none) 0 :=
      ⟨rfl, by simp [new], nofun⟩
    apply hempty.answers calls
    rw [List.pairwise_cons]
    refine ⟨?_, hclock⟩
    intro reading _
    exact UInt64.zero_le
  refine ⟨hledger sweepEvery calls hclock, ?_⟩
  intro sweepEvery' calls' hclock' hasked
  rw [hledger sweepEvery' calls' hclock', hledger sweepEvery calls hclock, hasked]

/-- An item is stored for a second, made to last longer, and read on both sides of its deadline,
with sweeps in between. -/
def acrossDeadline : List (Call Nat String) :=
  [⟨.put 1 "item" (some 1), 0, [], 0⟩, ⟨.guarantee 1 2, 500, [500], 500⟩, ⟨.clean, 1500, [], 1500⟩,
    ⟨.get 1, 2000, [2100], 2200⟩, ⟨.remaining 1, 2499, [], 2499⟩, ⟨.get 1, 2500, [], 2500⟩]

/-- The guarantee makes the item last to 2.5 s, whatever sweeps come in between. -/
theorem answers_eq_ledger_across_deadline :
    (acrossDeadline.flatMap Call.readings).Pairwise (· ≤ ·) ∧
      (new 60 0).answers acrossDeadline =
        [.done, .flag true, .item (some "item"), .remaining (some 1), .item none] := by
  have hclock : (acrossDeadline.flatMap Call.readings).Pairwise (· ≤ ·) := by decide
  refine ⟨hclock, ?_⟩
  rw [(answers_eq_ledger 60 0 acrossDeadline hclock).1]
  decide

end ObjectStore
end CacheService
