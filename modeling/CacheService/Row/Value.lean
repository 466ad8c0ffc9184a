import CacheService.Number.Layout
import CacheService.Json.Quoted

/-!
# Column values

A value of one column, how it is shown, and how it stands in a JSON document.
-/

namespace CacheService

inductive Value where
  | null
  | integer (i : Int64)
  | real (x : Double)
  | text (s : String)
  | blob (bytes : List UInt8)
  deriving DecidableEq, Repr

/-- Numbers as text: shortest digits, never a power of ten. -/
def plainNumber : Layout where
  tie := .up
  plainFrom := -400
  plainBelow := 400
  pointZero := false
  plusSign := false

/-- Numbers in a JSON document: a power of ten below `1e-5` and from `1e+16` on. -/
def jsonNumber : Layout where
  tie := .even
  plainFrom := -5
  plainBelow := 16
  pointZero := true
  plusSign := true

namespace Value

def kind : Value → String
  | null => "null"
  | integer _ => "integer"
  | real _ => "real"
  | text _ => "text"
  | blob _ => "blob"

/-- The value as text. The bytes of a blob are only counted. -/
def display : Value → String
  | null => "null"
  | integer i => toString i
  | real x => plainNumber.render x
  | text s => s
  | blob bytes => s!"<{bytes.length} bytes>"

/-- The value in a JSON document. A number that is not finite becomes null, a blob a list. -/
def json : Value → String
  | null => "null"
  | integer i => toString i
  | real x => if x.isFinite then jsonNumber.render x else "null"
  | text s => Json.quoted s
  | blob bytes => "[" ++ String.intercalate "," (bytes.map fun b => toString b.toNat) ++ "]"

end Value
end CacheService
