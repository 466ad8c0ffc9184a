import CacheService.Number.Double
import CacheService.Row.Value
import CacheService.Text.Utf8

/-!
# Stored values

What a table stores in one column, and how stored values compare. Texts are stored as bytes and may
be broken; reading replaces the broken parts.
-/

namespace CacheService

inductive Cell where
  | null
  | integer (i : Int64)
  | real (x : Double)
  | text (bytes : List UInt8)
  | blob (bytes : List UInt8)
  deriving DecidableEq, Repr

namespace Cell

/-- The cell that stores a value. What is not a number is stored as null. -/
def ofValue : Value → Cell
  | .null => null
  | .integer i => integer i
  | .real x => if x.isNaN then null else real x
  | .text s => text (Text.bytes s)
  | .blob bytes => blob bytes

def value : Cell → Value
  | null => .null
  | integer i => .integer i
  | real x => .real x
  | text bytes => .text (Text.ofBytes bytes)
  | blob bytes => .blob bytes

def ofTruth : Option Bool → Cell
  | none => null
  | some b => integer (if b then 1 else 0)

/-! ## Order -/

/-- Null comes before the numbers, they before the texts, and these before the blobs. -/
def rank : Cell → Nat
  | null => 0
  | integer _ => 1
  | real _ => 1
  | text _ => 2
  | blob _ => 3

/-- A number as a fraction, and zero for all other cells. -/
def fraction : Cell → Int × Nat
  | integer i => (i.toInt, 1)
  | real x => (x.signedNumerator, x.denominator)
  | _ => (0, 1)

def bytes : Cell → List UInt8
  | text bytes => bytes
  | blob bytes => bytes
  | _ => []

/-- Compares cells: by rank, numbers by size whatever their kind, and bytes one by one. -/
protected def compare (a b : Cell) : Ordering :=
  let (m, k) := a.fraction
  let (n, l) := b.fraction
  (compare a.rank b.rank).then ((compare (m * l) (n * k)).then (compare a.bytes b.bytes))

instance : Ord Cell where
  compare := Cell.compare

end Cell
end CacheService
