import CacheService.Lookup.KeyOrder

/-!
# Tables by key

A finite table whose keys are compared in normal form. Storing normalises the key outright; reading
asks for the normal form and keeps the key when nothing changes.
-/

namespace CacheService

/-- A table from keys in normal form to values. -/
structure KeyTable (α : Type) where
  entries : Std.ExtTreeMap Key α

namespace KeyTable

variable {α : Type}

def empty : KeyTable α :=
  ⟨∅⟩

def get? (t : KeyTable α) (key : Key) : Option α :=
  t.entries[key.renormal.key]?

def contains (t : KeyTable α) (key : Key) : Bool :=
  t.entries.contains key.renormal.key

def insert (t : KeyTable α) (e : Entry α) : KeyTable α :=
  ⟨t.entries.insert e.key.normal e.value⟩

def replaced? (t : KeyTable α) (e : Entry α) : Option α :=
  t.entries[e.key.normal]?

def insertMany (t : KeyTable α) (es : List (Entry α)) : KeyTable α :=
  es.foldl insert t

def size (t : KeyTable α) : Nat :=
  t.entries.size

def isEmpty (t : KeyTable α) : Bool :=
  t.entries.isEmpty

def snapshot (t : KeyTable α) : List (Key × α) :=
  t.entries.toList

end KeyTable
end CacheService
