import CacheService.Lookup.Dump
import CacheService.Number.Layout
import CacheService.Text.Quoted

/-!
# Cached values

Values that lookup tables hold, and how a dump shows them.
-/

namespace CacheService

inductive Cached where
  | null
  | integer (i : Int64)
  | real (x : Double)
  | flag (b : Bool)
  | text (s : String)
  deriving DecidableEq, Repr

/-- Numbers in a dump: a power of ten below `1e-4` and from `1e16` on, and a point otherwise. -/
def dumpNumber : Layout where
  tie := .up
  plainFrom := -4
  plainBelow := 16
  pointZero := true
  plusSign := false

namespace Cached

def dump : Cached → String
  | null => "null"
  | integer i => toString i
  | real x => dumpNumber.render x
  | flag b => if b then "true" else "false"
  | text s => Text.quoted s

end Cached

end CacheService
