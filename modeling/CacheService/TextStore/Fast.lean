import CacheService.TextStore.Cache
import CacheService.TextStore.Memory

/-!
# Texts in files with copies in memory

A tier that looks into memory before it goes to the disk. A text that was read from the disk is
copied to memory while enough memory is free. A write drops the copy whether it succeeds or not;
removing and clearing drop copies when they succeed.

Reading is cut where the free memory is asked for, because others may change both tiers until the
answer comes.
-/

namespace CacheService

/-- A cache of texts in files, copies of texts, and how much memory must be free for a copy. -/
structure FastTier where
  files : DiskCache
  memory : Memory := {}
  minFree : Double

namespace FastTier

/-! ## Reading -/

inductive Read where
  /-- the read has ended without the need to know how much memory is free -/
  | ended (outcome : Outcome (Option String))
  /-- the disk has answered a text, and the free memory is about to be asked for -/
  | asking (text : String) (stamp : Memory.Stamp)

/-- Looks into memory, and if there is no copy, takes a stamp and reads the disk. -/
def beginRead (key : TextKey) (t : FastTier) : Read × FastTier :=
  match t.memory.entries[key]? with
  | some text => (.ended (.ok (some text)), t)
  | none =>
    let stamp := t.memory.stamp key
    let (outcome, tier) := t.files.tier.find key
    let t := { t with files := { t.files with tier } }
    match outcome with
    | .ok (some text) => (.asking text stamp, t)
    | outcome => (.ended outcome, t)

/-- Copies the text that was read to memory if enough memory is free. -/
def endRead (free : Double) (key : TextKey) (read : Read) (t : FastTier) :
    Outcome (Option String) × FastTier :=
  match read with
  | .ended outcome => (outcome, t)
  | .asking text stamp =>
    let memory := if t.minFree.lt free then t.memory.promote key text stamp else t.memory
    (.ok (some text), { t with memory })

def find (free : Double) (key : TextKey) (t : FastTier) : Outcome (Option String) × FastTier :=
  let (read, t) := t.beginRead key
  t.endRead free key read

/-! ## Writing -/

/-- Stores a text. The copy in memory is dropped even if that fails. -/
def write (key : TextKey) (text : String) (t : FastTier) : Outcome Unit × FastTier :=
  let (outcome, tier) := t.files.tier.write key text
  (outcome, { t with files := { t.files with tier }, memory := t.memory.invalidate key })

/-- Does something on the disk, and if that succeeds, something in memory. -/
def diskThenMemory {α : Type} (act : TextFiles → Outcome α × TextFiles) (drop : Memory → Memory)
    (t : FastTier) : Outcome α × FastTier :=
  let (outcome, tier) := act t.files.tier
  let t := { t with files := { t.files with tier } }
  match outcome with
  | .error e => (.error e, t)
  | .ok a => (.ok a, { t with memory := drop t.memory })

def remove (key : TextKey) : FastTier → Outcome Bool × FastTier :=
  diskThenMemory (fun f => f.remove key) fun m => m.invalidate key

def clear (textType : String) : FastTier → Outcome Nat × FastTier :=
  diskThenMemory (fun f => f.clear textType) fun m =>
    m.clearWhere fun key => key.textType == textType

def clearAll : FastTier → Outcome Nat × FastTier :=
  diskThenMemory TextFiles.clearAll fun m => m.clearWhere fun _ => true

/-- An operation on the files that leaves the copies alone. -/
def onFiles {α : Type} (act : TextFiles → α × TextFiles) (t : FastTier) : α × FastTier :=
  let (a, files) := t.files.onTier act
  (a, { t with files })

def tier (free : Double) : TextTier FastTier where
  find := fun key t => t.find free key
  write := fun key text t => t.write key text

end FastTier

abbrev FastCache : Type :=
  TextCache FastTier

namespace FastCache

/-- Begins a read: checks the names, looks into memory, and reads the disk if need be. -/
def beginGet (key : TextKey) (c : FastCache) : Outcome FastTier.Read × FastCache :=
  match TextName.checkKey key with
  | .error e => (.error e, c)
  | .ok () =>
    let (read, tier) := c.tier.beginRead key
    (.ok read, { c with tier })

/-- Ends a read: copies the text to memory if enough is free, and counts the read. -/
def endGet (free : Double) (key : TextKey) (begun : Outcome FastTier.Read) (c : FastCache) :
    Outcome (Option String) × FastCache :=
  match begun with
  | .error e => (.error e, c)
  | .ok read =>
    let (outcome, tier) := c.tier.endRead free key read
    (outcome, TextCache.settle { c with tier } key outcome)

end FastCache
end CacheService
