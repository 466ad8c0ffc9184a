import CacheService.Sql.Numeral

/-!
# Arithmetic on stored values

The operations on two stored values that yield a number or a text. A null on either side makes the
result null. Sums, differences and products of integers stay integers as long as they can; what is
no number, such as a quotient by zero, is null.
-/

namespace CacheService

inductive Operation where
  | add
  | subtract
  | multiply
  | divide
  | remainder
  | bitAnd
  | bitOr
  | shiftLeft
  | shiftRight
  | concat
  deriving DecidableEq, Repr

namespace Operation

def onIntegers? (op : Operation) (a b : Int) : Option Cell :=
  match op with
  | add => Cell.ofInt? (a + b)
  | subtract => Cell.ofInt? (a - b)
  | multiply => Cell.ofInt? (a * b)
  | divide => if b = 0 then some .null else Cell.ofInt? (a.tdiv b)
  | remainder => if b = 0 then some .null else Cell.ofInt? (a.tmod b)
  | _ => none

/-- The sum, unless it is not a number. -/
def sum? (x y : Double) : Option Double :=
  if x.isFinite && y.isFinite then some (x.plus y)
  else if x.isFinite then some y
  else if y.isFinite || x = y then some x
  else none

def product? (x y : Double) : Option Double :=
  if x.isFinite && y.isFinite then some (x.times y)
  else if x.magnitude = 0 || y.magnitude = 0 then none
  else some (.ofMagnitude (x.isNegative != y.isNegative) Double.infiniteMagnitude)

def quotient? (x y : Double) : Option Double :=
  if y.magnitude = 0 then none
  else if x.isFinite && y.isFinite then some (x.dividedBy y)
  else if x.isFinite then some (.ofMagnitude (x.isNegative != y.isNegative) 0)
  else if y.isFinite then
    some (.ofMagnitude (x.isNegative != y.isNegative) Double.infiniteMagnitude)
  else none

/-- The result on numbers of which one is a floating point number. The remainder is that of the
integers that the cells are worth. -/
def onReals? (op : Operation) (a b : Cell) : Option Double :=
  match op with
  | add => sum? a.toDouble b.toDouble
  | subtract => sum? a.toDouble b.toDouble.opposite
  | multiply => product? a.toDouble b.toDouble
  | divide => quotient? a.toDouble b.toDouble
  | remainder =>
    let divisor := b.toInteger.toInt
    if divisor = 0 then none else some (.ofInt (a.toInteger.toInt.tmod divisor))
  | _ => none

/-- Shifts the bits of an integer to the left, or to the right by a negative number of places. -/
def shift (i : Int64) (places : Int) : Int64 :=
  if places < 0 then Int64.ofInt (i.toInt >>> min 64 places.natAbs)
  else if 64 ≤ places then 0
  else Int64.ofInt (i.toInt * (Nat.shiftLeft 1 places.toNat : Nat))

def apply (op : Operation) (a b : Cell) : Cell :=
  if a = .null || b = .null then .null
  else
    match op with
    | bitAnd => .integer (a.toInteger &&& b.toInteger)
    | bitOr => .integer (a.toInteger ||| b.toInteger)
    | shiftLeft => .integer (shift a.toInteger b.toInteger.toInt)
    | shiftRight => .integer (shift a.toInteger (-b.toInteger.toInt))
    | concat => .text (a.toBytes ++ b.toBytes)
    | op =>
      let exact : Option Cell :=
        match a.toNumber, b.toNumber with
        | .integer i, .integer j => op.onIntegers? i.toInt j.toInt
        | _, _ => none
      match exact with
      | some c => c
      | none => (op.onReals? a b).elim .null .real

end Operation

namespace Cell

def minus (c : Cell) : Cell :=
  Operation.subtract.apply (integer 0) c

def inverted (c : Cell) : Cell :=
  if c = null then null else integer (~~~c.toInteger)

end Cell
end CacheService
