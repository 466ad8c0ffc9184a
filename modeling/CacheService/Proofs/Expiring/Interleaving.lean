import CacheService.Expiring.Step
import Mathlib.Data.List.Basic

/-!
# Callers of one store side by side

A crowd is a store with all the operations that were called on it, each as far as it has come. In
every move one operation is called or takes one step, in any order, and a step that reads the clock
may read any time. An operation that nobody comes between is one that the store performs by itself
(`advances_alone`).

As many sweeps are active as the mark of the store tells, so at most one is (`countP_sweeps`).
-/

namespace CacheService
namespace ObjectStore

/-! ## Operations in progress -/

/-- How far an operation has come. A read that has counted itself and is due to sweep has not marked
the store yet. -/
inductive Progress (κ α : Type) where
  | called (operation : Operation κ α)
  | due (key : κ)
  | underway (stage : Stage κ α)

variable {κ α : Type} [Ord κ] [Std.TransOrd κ]

/-- One step of an operation from its call on. The time is what the clock shows if the step reads
it. -/
def advance (s : ObjectStore κ α) (clock : UInt64) : Progress κ α → Progress κ α × ObjectStore κ α
  | .called (.get key) =>
    let (due, s) := s.countRead
    (if due then .due key else .underway (.reading (.read key)), s)
  | .called operation =>
    let (stage, s) := s.start operation
    (.underway stage, s)
  | .due key =>
    match s.beginSweep? with
    | some s => (.underway (.sweepReading (.read key)), s)
    | none => (.underway (.reading (.read key)), s)
  | .underway stage =>
    let (stage, s) := s.step clock stage
    (.underway stage, s)

def advances (s : ObjectStore κ α) (clock : UInt64) (p : Progress κ α) :
    Nat → Progress κ α × ObjectStore κ α
  | 0 => (p, s)
  | n + 1 => (s.advance clock p).2.advances clock (s.advance clock p).1 n

/-- Two steps up to the stages, and those of the stages, bring any operation to the answer that it
has alone. -/
theorem advances_alone (s : ObjectStore κ α) (clock : UInt64) (operation : Operation κ α) :
    s.advances clock (.called operation) (2 + mostSteps) =
      (.underway (.returned (s.perform clock operation).1), (s.perform clock operation).2) := by
  rcases s with ⟨entries, lifetime, every, hevery, reads, sweeping⟩
  cases operation with
  | get key =>
    -- whether it sweeps depends on its number, and then on whether the store is marked
    cases hdue : (reads + 1) % every == 0 with
    | false =>
      simp [advances, advance, perform, start, countRead, hdue, finish, mostSteps, steps, step]
    | true =>
      cases sweeping <;>
        simp [advances, advance, perform, start, countRead, hdue, beginSweep?, finish, mostSteps,
          steps, step]
  | clean => cases sweeping <;> rfl
  | _ => rfl

/-! ## Crowds -/

structure Crowd (κ α : Type) [Ord κ] where
  store : ObjectStore κ α
  /-- how far each operation has come, in the order of the calls -/
  callers : List (Progress κ α) := []

inductive Move (κ α : Type) where
  | call (operation : Operation κ α)
  /-- the operation of that number takes a step, which reads that time if it reads the clock -/
  | advance (number : Nat) (clock : UInt64)

namespace Crowd

/-- Makes a move. Operations that were not called cannot take a step. -/
def move (c : Crowd κ α) : Move κ α → Crowd κ α
  | .call operation => { c with callers := c.callers ++ [.called operation] }
  | .advance number clock =>
    match c.callers[number]? with
    | none => c
    | some p =>
      let (next, store) := c.store.advance clock p
      { store, callers := c.callers.set number next }

/-- The operation that takes a step in a move, as it stands before the step. -/
def mover? (c : Crowd κ α) : Move κ α → Option (Progress κ α)
  | .call _ => none
  | .advance number _ => c.callers[number]?

def run (c : Crowd κ α) (moves : List (Move κ α)) : Crowd κ α :=
  moves.foldl move c

/-- The operations that take steps in a run, each as it stands before the step. -/
def movers (c : Crowd κ α) : List (Move κ α) → List (Progress κ α)
  | [] => []
  | m :: rest => (c.mover? m).toList ++ (c.move m).movers rest

def after (s : ObjectStore κ α) (moves : List (Move κ α)) : Crowd κ α :=
  run { store := s } moves

@[simp] theorem run_nil (c : Crowd κ α) : c.run [] = c :=
  rfl

@[simp] theorem run_cons (c : Crowd κ α) (m : Move κ α) (moves : List (Move κ α)) :
    c.run (m :: moves) = (c.move m).run moves :=
  rfl

/-- An operation that was called takes its step on the store of the crowd. -/
theorem move_advance {c : Crowd κ α} {number : Nat} {p : Progress κ α} (clock : UInt64)
    (h : c.callers[number]? = some p) :
    c.move (.advance number clock) =
      { store := (c.store.advance clock p).2
        callers := c.callers.set number (c.store.advance clock p).1 } := by
  simp only [move, h]

/-- The store changes only by the step of an operation. -/
theorem store_move (c : Crowd κ α) (m : Move κ α) :
    (c.move m).store = c.store ∨
      ∃ p clock, c.mover? m = some p ∧ (c.move m).store = (c.store.advance clock p).2 := by
  cases m with
  | call operation => exact .inl rfl
  | advance number clock =>
    cases hp : c.callers[number]? with
    | none =>
      have hsame : c.move (.advance number clock) = c := by simp only [move, hp]
      exact .inl (by rw [hsame])
    | some p => exact .inr ⟨p, clock, hp, by rw [move_advance clock hp]⟩

end Crowd

/-! ## The mark of sweeps -/

namespace Progress

/-- Whether an operation is in a sweep: the store was marked for it, and the mark not taken away. -/
def sweeps : Progress κ α → Bool
  | .underway (.sweepReading _) | .underway (.sweepActing _ _) | .underway (.sweepEnding _ _) =>
    true
  | _ => false

end Progress

/-- To touch the table leaves the mark as it is. -/
theorem sweeping_act (s : ObjectStore κ α) (now : UInt64) (access : Access κ α) :
    (s.act now access).2.sweeping = s.sweeping := by
  cases access with
  | guarantee key seconds =>
    simp only [act, guaranteeAt]
    cases s.entries[key]? with
    | none => rfl
    | some t => cases hexpired : t.isExpired now <;> simp [hexpired]
  | read key =>
    simp only [act, readAt]
    cases s.entries[key]? with
    | none => rfl
    | some t => cases hexpired : t.isExpired now <;> simp [hexpired]
  | _ => rfl

/-- A step marks the store when it begins a sweep, and takes the mark away when it ends one. -/
theorem marks_advance (s : ObjectStore κ α) (clock : UInt64) {p : Progress κ α}
    (hmarked : p.sweeps = true → s.sweeping = true) :
    (s.advance clock p).1.sweeps.toNat + s.sweeping.toNat =
      p.sweeps.toNat + (s.advance clock p).2.sweeping.toNat := by
  cases p with
  | called operation =>
    cases operation with
    | get key =>
      by_cases hdue : (s.reads + 1) % s.sweepEvery = 0 <;>
        simp [advance, countRead, hdue, Progress.sweeps]
    | clean =>
      cases hs : s.sweeping <;>
        simp [advance, start, beginSweep?, hs, Progress.sweeps]
    | _ => rfl
  | due key =>
    cases hs : s.sweeping <;> simp [advance, beginSweep?, hs, Progress.sweeps]
  | underway stage =>
    cases stage with
    | acting access now =>
      -- only sweeps touch the mark
      have hsame := s.sweeping_act now access
      simp only [advance, step, hsame]
      rfl
    | sweepEnding occasion removed =>
      -- the sweep that ends here is the one for which the store was marked
      have hs : s.sweeping = true := hmarked rfl
      cases occasion <;> simp [advance, step, Progress.sweeps, hs]
    | _ => rfl

namespace Crowd

/-- In every move the store stays marked exactly while one operation is in a sweep, and never two.
-/
theorem countP_sweeps_move {c : Crowd κ α} (m : Move κ α)
    (hc : c.callers.countP Progress.sweeps = c.store.sweeping.toNat) :
    (c.move m).callers.countP Progress.sweeps = (c.move m).store.sweeping.toNat := by
  cases m with
  | call operation =>
    simp only [move, List.countP_append, List.countP_singleton, Progress.sweeps, hc]
    rfl
  | advance number clock =>
    cases hp : c.callers[number]? with
    | none =>
      have hsame : c.move (.advance number clock) = c := by simp only [move, hp]
      rw [hsame, hc]
    | some p =>
      have hmem : p ∈ c.callers := List.mem_of_getElem? hp
      have hmarked : p.sweeps = true → c.store.sweeping = true := by
        intro hsweeps
        have hpos : 0 < c.callers.countP Progress.sweeps :=
          List.countP_pos_iff.2 ⟨p, hmem, hsweeps⟩
        rw [hc] at hpos
        cases hs : c.store.sweeping with
        | true => rfl
        | false => simp [hs] at hpos
      have hstep := marks_advance c.store clock hmarked
      -- the caller is counted as it stands after the step, not as it stood before
      obtain ⟨hlt, hget⟩ := List.getElem?_eq_some_iff.1 hp
      have hle : p.sweeps.toNat ≤ c.store.sweeping.toNat := by
        cases hsweeps : p.sweeps with
        | false => exact Nat.zero_le _
        | true => simp [hmarked hsweeps]
      have hbit : ∀ b : Bool, (if b = true then 1 else 0) = b.toNat := by decide
      rw [move_advance clock hp]
      dsimp only
      rw [List.countP_set hlt, hget, hc, hbit, hbit]
      omega

/-- As many sweeps are active as the mark of the store tells. -/
theorem countP_sweeps {s : ObjectStore κ α} (hs : s.sweeping = false) (moves : List (Move κ α)) :
    (after s moves).callers.countP Progress.sweeps = (after s moves).store.sweeping.toNat := by
  have hrun : ∀ c : Crowd κ α, c.callers.countP Progress.sweeps = c.store.sweeping.toNat →
      (c.run moves).callers.countP Progress.sweeps = (c.run moves).store.sweeping.toNat := by
    induction moves with
    | nil => exact fun c hc => hc
    | cons m rest ih => exact fun c hc => ih _ (countP_sweeps_move m hc)
  apply hrun
  rw [hs]
  rfl

/-- A sweep that someone asks for while another one is active answers none and changes nothing. -/
theorem clean_of_sweeping {c : Crowd κ α} {number : Nat}
    (hcaller : c.callers[number]? = some (.called .clean)) (hs : c.store.sweeping = true)
    (clock : UInt64) :
    c.move (.advance number clock) =
      { store := c.store
        callers := c.callers.set number (.underway (.returned (.removed 0))) } := by
  rw [move_advance clock hcaller]
  simp only [advance, start, beginSweep?, hs, if_true]

end Crowd
end ObjectStore
end CacheService
