import CacheService.TextStore.Fast

/-!
# Operations on two tiers in steps

An operation on texts in files with copies in memory, cut into the steps between which other
operations may come: a look into memory, the work on the disk, and the change in memory.
-/

namespace CacheService
namespace FastTier

inductive Operation where
  | get (key : TextKey)
  | put (key : TextKey) (text : String)
  | remove (key : TextKey)
  | clear (textType : String)
  | clearAll

inductive Answer where
  | found (outcome : Outcome (Option String))
  | written (outcome : Outcome Unit)
  | removed (outcome : Outcome Bool)
  | cleared (outcome : Outcome Nat)

/-- A change of memory that follows a change of the disk. -/
inductive Drop where
  | key (key : TextKey)
  | textType (textType : String)
  | all

namespace Drop

def covers (key : TextKey) : Drop → Bool
  | .key k => k == key
  | .textType t => key.textType == t
  | .all => true

def apply (m : Memory) : Drop → Memory
  | .key k => m.invalidate k
  | .textType t => m.clearWhere fun key => key.textType == t
  | .all => m.clearWhere fun _ => true

end Drop

/-- How far an operation has come. -/
inductive Stage where
  | beginning (operation : Operation)
  /-- there was no copy, and the disk is about to be read -/
  | reading (key : TextKey) (stamp : Memory.Stamp)
  /-- the disk has answered a text, and the free memory is about to be asked for -/
  | asking (key : TextKey) (text : String) (stamp : Memory.Stamp)
  /-- the disk was changed, and the copies are about to be dropped -/
  | dropping (drop : Drop) (answer : Answer)
  | returned (answer : Answer)

/-- What an operation answers if its work on the disk has failed and memory is left alone. -/
def afterDisk {α : Type} (drop : Drop) (answer : Outcome α → Answer) (outcome : Outcome α) :
    Stage :=
  match outcome with
  | .ok a => .dropping drop (answer (.ok a))
  | .error e => .returned (answer (.error e))

/-- One step of an operation. The number is how much memory is free if the step asks for it. -/
def step (free : Double) (stage : Stage) (t : FastTier) : Stage × FastTier :=
  match stage with
  | .beginning (.get key) =>
    match t.memory.entries[key]? with
    | some text => (.returned (.found (.ok (some text))), t)
    | none => (.reading key (t.memory.stamp key), t)
  | .reading key stamp =>
    match t.onFiles fun f => f.find key with
    | (.ok (some text), t) => (.asking key text stamp, t)
    | (outcome, t) => (.returned (.found outcome), t)
  | .asking key text stamp =>
    let (outcome, t) := t.endRead free key (.asking text stamp)
    (.returned (.found outcome), t)
  | .beginning (.put key text) =>
    let (outcome, t) := t.onFiles fun f => f.write key text
    (.dropping (.key key) (.written outcome), t)
  | .beginning (.remove key) =>
    let (outcome, t) := t.onFiles fun f => f.remove key
    (afterDisk (.key key) .removed outcome, t)
  | .beginning (.clear textType) =>
    let (outcome, t) := t.onFiles fun f => f.clear textType
    (afterDisk (.textType textType) .cleared outcome, t)
  | .beginning .clearAll =>
    let (outcome, t) := t.onFiles TextFiles.clearAll
    (afterDisk .all .cleared outcome, t)
  | .dropping drop answer => (.returned answer, { t with memory := drop.apply t.memory })
  | .returned answer => (.returned answer, t)

end FastTier
end CacheService
