import CacheService.Number.Double
import Std.Data.ExtTreeMap

/-!
# Hits and misses

Counters of reads that found a text and of reads that found none, for each text type and in all.
-/

namespace CacheService

/-- Reads that found something, and reads that did not. That counters of 64 bits wrap around after
`2 ^ 64` reads is left out. -/
structure HitCounts where
  hits : Nat := 0
  misses : Nat := 0
  deriving DecidableEq, Repr, Inhabited

namespace HitCounts

def total (c : HitCounts) : Nat :=
  c.hits + c.misses

def record (c : HitCounts) (found : Bool) : HitCounts :=
  if found then { c with hits := c.hits + 1 } else { c with misses := c.misses + 1 }

def hundred : Double :=
  .ofNat 100

/-- The percentage of reads that found something. Before any read it is one hundred. Each step of
the computation is rounded. -/
def rate (c : HitCounts) : Double :=
  if c.total = 0 then hundred else (hundred.times (.ofNat c.hits)).dividedBy (.ofNat c.total)

end HitCounts

structure Stats where
  perType : Std.ExtTreeMap String HitCounts := ∅
  total : HitCounts := {}

namespace Stats

def record (s : Stats) (textType : String) (found : Bool) : Stats where
  perType := s.perType.insert textType ((s.perType.getD textType {}).record found)
  total := s.total.record found

def counts (s : Stats) (textType : String) : HitCounts :=
  s.perType.getD textType {}

def snapshot (s : Stats) : List (String × HitCounts) :=
  s.perType.toList

end Stats
end CacheService
