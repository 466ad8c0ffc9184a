import CacheService.Number.Shortest

/-!
# Significant digits

A floating point number as a decimal of a fixed number of digits, and its text with fifteen of them.
A half is rounded up.
-/

namespace CacheService
namespace Double

def leadingExponent (x : Double) : Int :=
  let grid := x.coarsestGrid
  if x.floorOnGrid (grid - 1) = 0 then grid - 2 else grid - 1

/-- The nearest decimal of some digits to the magnitude of a finite number that is not zero. It has
one digit more if rounding carries into a new place. -/
def significant (count : Nat) (x : Double) : Decimal :=
  let last := x.leadingExponent - count + 1
  ⟨(x.floorOnGrid (last - 1) + 5) / 10, last⟩

end Double

namespace Decimal

def trimmed (d : Decimal) : List Char :=
  (d.digits.repr.toList.reverse.dropWhile (· = '0')).reverse

/-- The text of a decimal, with at least one digit on both sides of the point. A leading digit below
the fourth place or above the fifteenth is written with a power of ten of two digits. -/
def pointed (d : Decimal) : List Char :=
  let leading := d.exponent + d.digits.repr.length - 1
  let digits := d.trimmed
  let orZero (ds : List Char) : List Char := if ds.isEmpty then ['0'] else ds
  if -4 ≤ leading && leading ≤ 14 then
    if leading < 0 then ['0', '.'] ++ List.replicate (-leading - 1).toNat '0' ++ digits
    else
      let whole := leading.toNat + 1
      digits.take whole ++ List.replicate (whole - digits.length) '0' ++ '.' ::
        orZero (digits.drop whole)
  else
    let power := leading.natAbs.repr.toList
    digits.take 1 ++ '.' :: orZero (digits.drop 1) ++ ['e', if leading < 0 then '-' else '+'] ++
      List.replicate (2 - power.length) '0' ++ power

end Decimal

namespace Double

/-- The text of a number with fifteen digits. Zero has no sign. -/
def pointed (x : Double) : String :=
  if x.magnitude = 0 then "0.0"
  else
    let body := if x.isFinite then (x.significant 15).pointed else ['I', 'n', 'f']
    String.ofList (if x.isNegative then '-' :: body else body)

end Double
end CacheService
