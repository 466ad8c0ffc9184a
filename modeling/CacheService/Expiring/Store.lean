import CacheService.Expiring.Timed
import Std.Data.ExtTreeMap

/-!
# Stores of items with deadlines

A store keeps items until they expire. Expired items are removed when they are asked for, and by
sweeps: every so many reads, and whenever someone asks for one. One sweep is active at a time; the
store is marked while it is.

The first part holds what an operation does to the table at one reading of the clock. The second
part holds whole operations of a caller that nobody else interferes with.
-/

namespace CacheService

/-- A table of items with deadlines, and what sweeps need. -/
structure ObjectStore (κ α : Type) [Ord κ] where
  entries : Std.ExtTreeMap κ (Timed α) := ∅
  /-- the lifetime, in seconds, of items that are stored without one -/
  defaultLifetime : UInt64
  /-- every read whose number is a multiple of this sweeps -/
  sweepEvery : Nat
  sweepEvery_pos : 0 < sweepEvery
  /-- reads so far; that 64 bits wrap around after `2 ^ 64` of them is left out -/
  reads : Nat := 0
  /-- whether a sweep is active -/
  sweeping : Bool := false

namespace ObjectStore

variable {κ α : Type} [Ord κ] [Std.TransOrd κ]

def usualSweepEvery : Nat :=
  10000

/-- A store without items. A sweep period of zero counts as one. -/
def new (defaultLifetime : UInt64) (sweepEvery : Nat) : ObjectStore κ α where
  defaultLifetime := defaultLifetime
  sweepEvery := max sweepEvery 1
  sweepEvery_pos := by omega

/-! ## The table at one reading of the clock -/

def putAt (s : ObjectStore κ α) (now : UInt64) (key : κ) (item : α) (lifetime : Option UInt64) :
    ObjectStore κ α :=
  let t := Timed.lasting item now (lifetime.getD s.defaultLifetime)
  { s with entries := s.entries.insert key t }

/-- Makes an item that has not expired last a number of seconds from now at least. Answers whether
there is such an item. -/
def guaranteeAt (s : ObjectStore κ α) (now : UInt64) (key : κ) (seconds : UInt64) :
    Bool × ObjectStore κ α :=
  match s.entries[key]? with
  | some t =>
    if t.isExpired now then (false, s)
    else
      (true, { s with entries := s.entries.insert key (t.extend (Time.after now seconds)) })
  | none => (false, s)

/-- The item of a key. An expired item is removed. -/
def readAt (s : ObjectStore κ α) (now : UInt64) (key : κ) : Option α × ObjectStore κ α :=
  match s.entries[key]? with
  | some t =>
    if t.isExpired now then (none, { s with entries := s.entries.erase key })
    else (some t.item, s)
  | none => (none, s)

def removeAt (s : ObjectStore κ α) (now : UInt64) (key : κ) : Option α × ObjectStore κ α :=
  let found := s.entries[key]?.filter fun t => !t.isExpired now
  (found.map Timed.item, { s with entries := s.entries.erase key })

/-- The milliseconds left to an item that has not expired. -/
def remainingAt (s : ObjectStore κ α) (now : UInt64) (key : κ) : Option UInt64 :=
  (s.entries[key]?.filter fun t => !t.isExpired now).map fun t => t.remaining now

def sweepAt (s : ObjectStore κ α) (now : UInt64) : Nat × ObjectStore κ α :=
  let live := s.entries.filter fun _ t => !t.isExpired now
  (s.entries.size - live.size, { s with entries := live })

def reset (s : ObjectStore κ α) : ObjectStore κ α :=
  { s with entries := ∅ }

def countRead (s : ObjectStore κ α) : Bool × ObjectStore κ α :=
  let reads := s.reads + 1
  (reads % s.sweepEvery == 0, { s with reads })

/-! ## Whole operations -/

/-- A sweep, unless one is active. -/
def clean (s : ObjectStore κ α) (now : UInt64) : Nat × ObjectStore κ α :=
  if s.sweeping then (0, s) else s.sweepAt now

/-- The item of a key. A sweep, if it is time for one, goes before and reads the clock for
itself. -/
def get (s : ObjectStore κ α) (sweepTime now : UInt64) (key : κ) : Option α × ObjectStore κ α :=
  let (due, s) := s.countRead
  let s := if due then (s.clean sweepTime).2 else s
  s.readAt now key

def size (s : ObjectStore κ α) : Nat :=
  s.entries.size

def isEmpty (s : ObjectStore κ α) : Bool :=
  s.entries.isEmpty

end ObjectStore
end CacheService
