import CacheService.TextStore.Step

/-!
# Operations that run side by side

A crowd is a cache with all the operations that were called on it, each as far as it has come. In
every move one operation is called or takes one step, in any order, or time goes by. An operation
that nothing comes between is one that the cache performs by itself (`steps_alone`).

The history lists the operations in the order in which they took their first steps, which for all
but `get` are the steps on the disk.
-/

namespace CacheService
namespace FastTier

/-! ## Operations alone -/

/-- What an operation answers and leaves when nothing comes between its steps. -/
def perform (free : Double) (t : FastTier) : Operation → Answer × FastTier
  | .get key =>
    let (outcome, t) := t.find free key
    (.found outcome, t)
  | .put key text =>
    let (outcome, t) := t.write key text
    (.written outcome, t)
  | .remove key =>
    let (outcome, t) := t.remove key
    (.removed outcome, t)
  | .clear textType =>
    let (outcome, t) := t.clear textType
    (.cleared outcome, t)
  | .clearAll =>
    let (outcome, t) := t.clearAll
    (.cleared outcome, t)

def steps (free : Double) : Nat → Stage → FastTier → Stage × FastTier
  | 0, stage, t => (stage, t)
  | n + 1, stage, t => steps free n (step free stage t).1 (step free stage t).2

/-- After a disk step and what follows it, an operation has returned what it answers alone. -/
theorem steps_afterDisk {α : Type} (free : Double) (drop : Drop) (answer : Outcome α → Answer)
    (act : TextFiles → Outcome α × TextFiles) (forget : Memory → Memory)
    (hforget : ∀ m, drop.apply m = forget m) (t : FastTier) :
    steps free 2 (afterDisk drop answer (t.onFiles act).1) (t.onFiles act).2 =
      (.returned (answer (t.diskThenMemory act forget).1), (t.diskThenMemory act forget).2) := by
  unfold onFiles TextCache.onTier diskThenMemory
  rcases act t.files.tier with ⟨e | a, f⟩
  · rfl
  · simp only [afterDisk, steps, step, hforget]

/-- The first two steps of a `get` are those before the free memory is asked for. -/
theorem steps_beginRead (free : Double) (key : TextKey) (t : FastTier) :
    steps free 2 (.beginning (.get key)) t =
      match t.beginRead key with
      | (.ended outcome, t) => (.returned (.found outcome), t)
      | (.asking text stamp, t) => (.asking key text stamp, t) := by
  unfold beginRead
  cases he : t.memory.entries[key]? with
  | some text => simp only [steps, step, he]
  | none =>
    rcases hf : t.files.tier.find key with ⟨e | _ | text, f⟩ <;>
      simp only [steps, step, he, onFiles, TextCache.onTier, hf]

/-- Three steps in a row bring any operation to the answer that it has alone. -/
theorem steps_alone (free : Double) (operation : Operation) (t : FastTier) :
    steps free 3 (.beginning operation) t =
      (.returned (t.perform free operation).1, (t.perform free operation).2) := by
  cases operation with
  | get key =>
    -- the third step copies the text if the first two have led to one
    have hlast : steps free 3 (.beginning (.get key)) t =
        step free (steps free 2 (.beginning (.get key)) t).1
          (steps free 2 (.beginning (.get key)) t).2 := rfl
    rw [hlast, steps_beginRead]
    simp only [perform, find]
    rcases t.beginRead key with ⟨outcome | ⟨text, stamp⟩, t'⟩ <;> rfl
  | put key text => rfl
  -- the others take a disk step and a memory step, and then stay where they are
  | remove key =>
    exact steps_afterDisk free (.key key) .removed (fun f => f.remove key)
      (fun m => m.invalidate key) (fun _ => rfl) t
  | clear textType =>
    exact steps_afterDisk free (.textType textType) .cleared (fun f => f.clear textType)
      (fun m => m.clearWhere fun key => key.textType == textType) (fun _ => rfl) t
  | clearAll =>
    exact steps_afterDisk free .all .cleared TextFiles.clearAll
      (fun m => m.clearWhere fun _ => true) (fun _ => rfl) t

/-! ## Crowds -/

def Answer.failed : Answer → Bool
  | .found (.error _) | .written (.error _) | .removed (.error _) | .cleared (.error _) => true
  | _ => false

/-- Whether the work of an operation has failed. -/
def Stage.failed : Stage → Bool
  | .dropping _ answer | .returned answer => answer.failed
  | _ => false

/-- Whether an operation has changed the disk and is about to drop the copy of a key. -/
def Stage.drops (key : TextKey) : Stage → Bool
  | .dropping drop _ => drop.covers key
  | _ => false

/-- The operation that a step begins, if it begins one. -/
def Stage.begun : Stage → List Operation
  | .beginning operation => [operation]
  | _ => []

/-- Lets time go by, which the disk tells by the clock. -/
def wait (now : Instant) (t : FastTier) : FastTier :=
  (t.onFiles fun f => ((), { f with disk := { f.disk with now } })).2

structure Crowd where
  tier : FastTier
  /-- how far each operation has come, in the order of the calls -/
  stages : List Stage := []
  /-- the operations that have taken their first step, in the order of these steps -/
  history : List Operation := []

inductive Move where
  | call (operation : Operation)
  /-- the operation of that number takes a step, while so much memory is free -/
  | advance (number : Nat) (free : Double)
  | wait (now : Instant)

namespace Crowd

/-- Makes a move. Operations that were not called cannot take a step. -/
def move (c : Crowd) : Move → Crowd
  | .call operation => { c with stages := c.stages ++ [.beginning operation] }
  | .advance number free =>
    match c.stages[number]? with
    | none => c
    | some stage =>
      let (next, tier) := step free stage c.tier
      { tier, stages := c.stages.set number next, history := c.history ++ stage.begun }
  | .wait now => { c with tier := c.tier.wait now }

def run (c : Crowd) (moves : List Move) : Crowd :=
  moves.foldl move c

/-- What moves lead to from a cache on which nothing was called. -/
def after (t : FastTier) (moves : List Move) : Crowd :=
  run { tier := t } moves

/-- Some operation that covers a key stands between its disk step and its memory step. -/
def Pending (c : Crowd) (key : TextKey) : Prop :=
  ∃ stage ∈ c.stages, stage.drops key = true

@[simp] theorem run_nil (c : Crowd) : c.run [] = c :=
  rfl

@[simp] theorem run_cons (c : Crowd) (m : Move) (moves : List Move) :
    c.run (m :: moves) = (c.move m).run moves :=
  rfl

theorem run_append (c : Crowd) (front back : List Move) :
    c.run (front ++ back) = (c.run front).run back :=
  List.foldl_append

theorem after_append (t : FastTier) (front back : List Move) :
    after t (front ++ back) = (after t front).run back :=
  run_append _ front back

/-- An operation that was called takes its step on the cache of the crowd. -/
theorem move_advance {c : Crowd} {number : Nat} {stage : Stage} (free : Double)
    (h : c.stages[number]? = some stage) :
    c.move (.advance number free) =
      { tier := (step free stage c.tier).2
        stages := c.stages.set number (step free stage c.tier).1
        history := c.history ++ stage.begun } := by
  simp only [move, h]

end Crowd
end FastTier
end CacheService
