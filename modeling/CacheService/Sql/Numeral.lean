import CacheService.Number.Significant
import CacheService.Number.Reading
import CacheService.Sql.Cell

/-!
# Numbers in stored values

What a stored value is worth as a number. A text or a blob is worth the number that it begins with,
behind blanks, and zero if it begins with none.
-/

namespace CacheService

/-- The number that a text begins with. -/
structure Numeral where
  negative : Bool
  /-- the digits before the point -/
  whole : List Char
  /-- the digits behind it -/
  places : List Char
  /-- the power of ten that is written behind the digits -/
  power : Int
  /-- whether a point or a power of ten is written -/
  isReal : Bool
  /-- whether nothing but blanks stands behind the number -/
  isComplete : Bool

namespace Numeral

def isBlank (c : Char) : Bool :=
  c = ' ' || ('\t' ≤ c && c ≤ '\r')

/-- How many characters the power of ten has that stands at the beginning. -/
def powerLength (cs : List Char) : Nat :=
  match cs with
  | e :: rest =>
    if e = 'e' || e = 'E' then
      let sign := if rest.head?.any (· ∈ ['+', '-']) then 1 else 0
      let digits := ((rest.drop sign).takeWhile Char.isDigit).length
      if digits = 0 then 0 else 1 + sign + digits
    else 0
  | [] => 0

def ofChars (cs : List Char) : Numeral :=
  let (negative, cs) := Reading.unsigned (cs.dropWhile isBlank)
  let whole := cs.takeWhile Reading.isDigit
  let behind := cs.drop whole.length
  let hasPoint := behind.head? = some '.'
  let places := if hasPoint then (behind.drop 1).takeWhile Reading.isDigit else []
  let behind := if hasPoint then behind.drop (1 + places.length) else behind
  let length := powerLength behind
  let hasDigits := !whole.isEmpty || !places.isEmpty
  { negative, whole, places
    power := (Reading.powerOfTen? (behind.take length)).getD 0
    isReal := hasDigits && (hasPoint || length != 0)
    isComplete := hasDigits && (behind.drop length).all isBlank }

def double (n : Numeral) : Double :=
  Reading.ofDecimal n.negative (Reading.digitsValue (n.whole ++ n.places))
    (n.power - n.places.length)

def int (n : Numeral) : Int :=
  let i : Int := Reading.digitsValue n.whole
  if n.negative then -i else i

end Numeral

namespace Cell

def clamp (i : Int) : Int64 :=
  if i < Int64.minValue.toInt then Int64.minValue
  else if Int64.maxValue.toInt < i then Int64.maxValue
  else Int64.ofInt i

def ofInt? (i : Int) : Option Cell :=
  if (clamp i).toInt = i then some (integer (clamp i)) else none

/-- The number in a text, as an integer if it is written as one and is not too large. -/
def ofNumeral (n : Numeral) : Cell :=
  let real := real n.double
  if n.isReal then real else (ofInt? n.int).getD real

/-- The number that a text or a blob begins with. -/
def numeral (bytes : List UInt8) : Numeral :=
  .ofChars (bytes.map fun b => Char.ofNat b.toNat)

def toNumber : Cell → Cell
  | text bytes => ofNumeral (numeral bytes)
  | blob bytes => ofNumeral (numeral bytes)
  | c => c

def toDouble : Cell → Double
  | null => .ofNat 0
  | integer i => .ofInt i.toInt
  | real x => x
  | text bytes => (numeral bytes).double
  | blob bytes => (numeral bytes).double

/-- What a cell is worth as an integer. What is too large is worth the nearest one, and a text only
its digits before the point. -/
def toInteger : Cell → Int64
  | null => 0
  | integer i => i
  | real x =>
    if x.isFinite then clamp x.truncated
    else if x.isNegative then Int64.minValue
    else Int64.maxValue
  | text bytes => clamp (numeral bytes).int
  | blob bytes => clamp (numeral bytes).int

def asNumber : Cell → Cell
  | text bytes => if (numeral bytes).isComplete then ofNumeral (numeral bytes) else text bytes
  | c => c

def truth? : Cell → Option Bool
  | null => none
  | integer i => some (i != 0)
  | c => some (c.toDouble.magnitude != 0)

/-! ## Texts of numbers -/

def toBytes : Cell → List UInt8
  | null => []
  | integer i => Text.bytes (toString i)
  | real x => Text.bytes x.pointed
  | text bytes => bytes
  | blob bytes => bytes

def asText : Cell → Cell
  | integer i => text (integer i).toBytes
  | real x => text (real x).toBytes
  | c => c

/-- The characters of a cell as a text, up to the first of number zero. -/
def toChars (c : Cell) : List Char :=
  (Text.ofBytes (c.toBytes.takeWhile (· != 0))).toList

end Cell
end CacheService
