import CacheService.Number.Double

/-!
# JSON documents

The values that answers are made of.
-/

namespace CacheService
namespace Json

inductive Document where
  | null
  | flag (b : Bool)
  | natural (n : Nat)
  | real (x : Double)
  | text (s : String)
  /-- members in order -/
  | object (members : List (String × Document))

end Json
end CacheService
