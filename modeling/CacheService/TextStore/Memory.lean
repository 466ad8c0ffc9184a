import CacheService.TextStore.Name

/-!
# Texts in memory

Copies of texts, and what keeps them from growing old. A write or a removal gives its key a new
version, and a clearing is counted. A reader notes the version and the number of clearings before it
goes to the disk; it may keep a copy only if both are the same afterwards.
-/

namespace CacheService

/-- Copies of texts, the versions of keys, and the number of clearings. -/
structure Memory where
  entries : Std.ExtTreeMap TextKey String := ∅
  versions : Std.ExtTreeMap TextKey Nat := ∅
  lastVersion : Nat := 0
  clearings : Nat := 0

namespace Memory

/-- What a reader notes before it goes to the disk. -/
structure Stamp where
  version : Nat
  clearings : Nat
  deriving DecidableEq, Repr

/-- The stamp of a key. A key that was never written has version zero. -/
def stamp (m : Memory) (key : TextKey) : Stamp where
  version := m.versions.getD key 0
  clearings := m.clearings

/-- Drops the copy of a key and gives the key a new version. -/
def invalidate (m : Memory) (key : TextKey) : Memory :=
  let version := m.lastVersion + 1
  { m with
    entries := m.entries.erase key
    versions := m.versions.insert key version
    lastVersion := version }

/-- Drops the copies and versions of the keys in a set. -/
def clearWhere (m : Memory) (covers : TextKey → Bool) : Memory :=
  { m with
    entries := m.entries.filter fun key _ => !covers key
    versions := m.versions.filter fun key _ => !covers key
    clearings := m.clearings + 1 }

/-- Keeps a copy, unless the key was written or cleared since the stamp was taken. -/
def promote (m : Memory) (key : TextKey) (text : String) (stamp : Stamp) : Memory :=
  if m.stamp key = stamp then { m with entries := m.entries.insert key text } else m

def size (m : Memory) : Nat :=
  m.entries.size

end Memory
end CacheService
