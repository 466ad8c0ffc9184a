/-!
# Sets of characters as ranges

A property of characters is a list of inclusive ranges of code points.
-/

namespace CacheService
namespace Text

/-- Whether the code point of the character lies in one of the inclusive ranges. -/
def inRanges (ranges : List (Nat × Nat)) (c : Char) : Bool :=
  ranges.any fun r => r.1 ≤ c.toNat && c.toNat ≤ r.2

end Text
end CacheService
