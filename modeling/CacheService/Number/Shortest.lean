import CacheService.Number.Double

/-!
# Shortest decimals

The shortest decimal that reads back as a given floating point number: of all decimals that round
to the number, one with the fewest digits, and of those the nearest.

The search goes from coarse to fine grids of powers of ten. On each grid only the two neighbours of
the number can read back, unless a coarser grid has been hit before.
-/

namespace CacheService

/-- The decimal `digits * 10 ^ exponent`. -/
structure Decimal where
  digits : Nat
  exponent : Int
  deriving DecidableEq, Repr, Inhabited

/-- Which of two equally near decimals is taken. -/
inductive Tie where
  | up
  | even
  deriving DecidableEq, Repr

namespace Decimal

/-- Compares `a * 10 ^ i` with `b * 2 ^ j`. -/
def compareScaled (a : Nat) (i : Int) (b : Nat) (j : Int) : Ordering :=
  compare ((a * Nat.pow 10 i.toNat) <<< (-j).toNat) ((b * Nat.pow 10 (-i).toNat) <<< j.toNat)

end Decimal

namespace Double

/-- Lower end of the reals that round to the number, in quarters of its last bit. The gap below a
power of two is half the gap above it. -/
def lowerQuarters (x : Double) : Nat :=
  if x.significand = unitPlace && 2 * unitPlace ≤ x.magnitude then 4 * x.significand - 1
  else 4 * x.significand - 2

/-- Upper end of the reals that round to the number, in quarters of its last bit. -/
def upperQuarters (x : Double) : Nat :=
  4 * x.significand + 2

/-- Whether the decimal rounds to the magnitude of the number. The ends of the range belong to it
when the last bit of the number is zero. -/
def readsBack (x : Double) (d : Decimal) : Bool :=
  let closed := x.significand % 2 == 0
  let low := Decimal.compareScaled d.digits d.exponent x.lowerQuarters (x.exponent - 2)
  let high := Decimal.compareScaled d.digits d.exponent x.upperQuarters (x.exponent - 2)
  (low == .gt || (closed && low == .eq)) && (high == .lt || (closed && high == .eq))

/-- The largest multiple of `10 ^ k` that is not above the magnitude, in that unit. -/
def floorOnGrid (x : Double) (k : Int) : Nat :=
  (x.numerator * Nat.pow 10 (-k).toNat) / (x.denominator * Nat.pow 10 k.toNat)

/-- The nearer of the two neighbours on the grid of `10 ^ k` that read back, if any does. -/
def onGrid? (tie : Tie) (x : Double) (k : Int) : Option Decimal :=
  let n := x.floorOnGrid k
  match x.readsBack ⟨n, k⟩, x.readsBack ⟨n + 1, k⟩ with
  | false, false => none
  | true, false => some ⟨n, k⟩
  | false, true => some ⟨n + 1, k⟩
  | true, true =>
    match Decimal.compareScaled (2 * n + 1) k (2 * x.significand) x.exponent with
    | .gt => some ⟨n, k⟩
    | .lt => some ⟨n + 1, k⟩
    | .eq =>
      match tie with
      | .up => some ⟨n + 1, k⟩
      | .even => some ⟨if n % 2 = 0 then n else n + 1, k⟩

/-- An exponent of ten whose power is above the magnitude, and by less than a factor of a
hundred. -/
def coarsestGrid (x : Double) : Int :=
  ((x.significand.log2 : Int) + x.exponent + 1) * 30103 / 100000 + 1

/-- The shortest decimal that reads back. Zero is written with one digit. -/
def shortest (tie : Tie) (x : Double) : Decimal :=
  if x.significand = 0 then ⟨0, 0⟩
  else
    match (List.range 20).findSome? fun (i : Nat) => x.onGrid? tie (x.coarsestGrid - i) with
    | some d => d
    | none => ⟨x.numerator * Nat.pow 5 (-x.exponent).toNat, min x.exponent 0⟩

end Double
end CacheService
