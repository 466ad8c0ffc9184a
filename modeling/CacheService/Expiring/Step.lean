import CacheService.Expiring.Store

/-!
# Operations in steps

An operation on a store of items with deadlines, cut where other operations may come in between: it
reads the clock, and later it touches the table. A sweep marks the store as being swept before it
reads the clock, and takes the mark away after it has touched the table.
-/

namespace CacheService
namespace ObjectStore

inductive Operation (κ α : Type) where
  | put (key : κ) (item : α) (lifetime : Option UInt64)
  | guarantee (key : κ) (seconds : UInt64)
  | get (key : κ)
  | remove (key : κ)
  | remaining (key : κ)
  | clean
  | reset

inductive Answer (α : Type) where
  | done
  | item (item : Option α)
  | flag (b : Bool)
  | remaining (millis : Option UInt64)
  | removed (count : Nat)
  deriving DecidableEq, Repr

/-- An operation that reads the clock once and then touches the table once. -/
inductive Access (κ α : Type) where
  | put (key : κ) (item : α) (lifetime : Option UInt64)
  | guarantee (key : κ) (seconds : UInt64)
  | read (key : κ)
  | remove (key : κ)
  | remaining (key : κ)

/-- What a sweep was started for. -/
inductive Occasion (κ : Type) where
  /-- a read of the key, which goes on after the sweep -/
  | read (key : κ)
  /-- the sweep itself -/
  | clean

/-- How far an operation has come. -/
inductive Stage (κ α : Type) where
  /-- about to read the clock -/
  | reading (access : Access κ α)
  /-- about to touch the table, with the time that was read -/
  | acting (access : Access κ α) (now : UInt64)
  /-- the sweep is active and about to read the clock -/
  | sweepReading (occasion : Occasion κ)
  /-- the sweep is about to touch the table -/
  | sweepActing (occasion : Occasion κ) (now : UInt64)
  /-- the sweep is about to take its mark away -/
  | sweepEnding (occasion : Occasion κ) (removed : Nat)
  | returned (answer : Answer α)

variable {κ α : Type} [Ord κ] [Std.TransOrd κ]

namespace Stage

def readsClock : Stage κ α → Bool
  | reading _ | sweepReading _ => true
  | _ => false

end Stage

/-- Begins a sweep, or answers none if one is active. -/
def beginSweep? (s : ObjectStore κ α) : Option (ObjectStore κ α) :=
  if s.sweeping then none else some { s with sweeping := true }

/-- What an operation does before it first reads the clock. -/
def start (s : ObjectStore κ α) : Operation κ α → Stage κ α × ObjectStore κ α
  | .put key item lifetime => (.reading (.put key item lifetime), s)
  | .guarantee key seconds => (.reading (.guarantee key seconds), s)
  | .remove key => (.reading (.remove key), s)
  | .remaining key => (.reading (.remaining key), s)
  | .reset => (.returned .done, s.reset)
  | .clean =>
    match s.beginSweep? with
    | some s => (.sweepReading .clean, s)
    | none => (.returned (.removed 0), s)
  | .get key =>
    let (due, s) := s.countRead
    match if due then s.beginSweep? else none with
    | some s => (.sweepReading (.read key), s)
    | none => (.reading (.read key), s)

/-- Touches the table for an access that has read the clock. -/
def act (s : ObjectStore κ α) (now : UInt64) : Access κ α → Answer α × ObjectStore κ α
  | .put key item lifetime => (.done, s.putAt now key item lifetime)
  | .guarantee key seconds =>
    let (found, s) := s.guaranteeAt now key seconds
    (.flag found, s)
  | .read key =>
    let (item, s) := s.readAt now key
    (.item item, s)
  | .remove key =>
    let (item, s) := s.removeAt now key
    (.item item, s)
  | .remaining key => (.remaining (s.remainingAt now key), s)

/-- One step of an operation. The time is what the clock shows if the step reads it. -/
def step (s : ObjectStore κ α) (clock : UInt64) : Stage κ α → Stage κ α × ObjectStore κ α
  | .reading access => (.acting access clock, s)
  | .acting access now =>
    let (answer, s) := s.act now access
    (.returned answer, s)
  | .sweepReading occasion => (.sweepActing occasion clock, s)
  | .sweepActing occasion now =>
    let (removed, s) := s.sweepAt now
    (.sweepEnding occasion removed, s)
  | .sweepEnding occasion removed =>
    let s := { s with sweeping := false }
    match occasion with
    | .clean => (.returned (.removed removed), s)
    | .read key => (.reading (.read key), s)
  | .returned answer => (.returned answer, s)

/-- Takes a number of steps with nobody in between. -/
def steps (s : ObjectStore κ α) (clock : UInt64) (stage : Stage κ α) :
    Nat → Stage κ α × ObjectStore κ α
  | 0 => (stage, s)
  | n + 1 =>
    let (stage, s) := s.step clock stage
    s.steps clock stage n

/-- The most steps that an operation takes after its start: three of a sweep and two of a read. -/
def mostSteps : Nat :=
  5

def finish (s : ObjectStore κ α) (clock : UInt64) (stage : Stage κ α) :
    Answer α × ObjectStore κ α :=
  match s.steps clock stage mostSteps with
  | (.returned answer, s) => (answer, s)
  | (_, s) => (.done, s)

/-- A whole operation with nobody in between. -/
def perform (s : ObjectStore κ α) (clock : UInt64) (operation : Operation κ α) :
    Answer α × ObjectStore κ α :=
  let (stage, s) := s.start operation
  s.finish clock stage

end ObjectStore
end CacheService
