import CacheService.Number.Shortest

/-!
# Layouts of decimals

How the digits of a number are set out: with the point among them or with a power of ten behind
them. A layout is one record of decisions.
-/

namespace CacheService

/-- The decisions that fix how a finite number is written. -/
structure Layout where
  /-- which of two equally near decimals is written -/
  tie : Tie
  /-- exponents of the leading digit from here on are written without a power of ten -/
  plainFrom : Int
  /-- exponents of the leading digit from here on are written with a power of ten -/
  plainBelow : Int
  /-- a whole number keeps a point and a zero -/
  pointZero : Bool
  /-- a positive power of ten has a plus sign -/
  plusSign : Bool

namespace Layout

/-- Sets a point among the digits, or pads them with zeros up to it. -/
def plain (l : Layout) (digits : List Char) (exponent : Int) : List Char :=
  if 0 ≤ exponent then
    digits ++ List.replicate exponent.toNat '0' ++ (if l.pointZero then ['.', '0'] else [])
  else
    let places := (-exponent).toNat
    if places < digits.length then
      digits.take (digits.length - places) ++ '.' :: digits.drop (digits.length - places)
    else
      ['0', '.'] ++ List.replicate (places - digits.length) '0' ++ digits

/-- Sets a point behind the first digit and adds the power of ten. -/
def scientific (l : Layout) (digits : List Char) (leading : Int) : List Char :=
  let mantissa :=
    match digits with
    | d :: rest => d :: (if rest.isEmpty then [] else '.' :: rest)
    | [] => []
  let sign := if leading < 0 then ['-'] else if l.plusSign then ['+'] else []
  mantissa ++ ['e'] ++ sign ++ leading.natAbs.repr.toList

def decimal (l : Layout) (d : Decimal) : List Char :=
  let digits := d.digits.repr.toList
  let leading := d.exponent + digits.length - 1
  if l.plainFrom ≤ leading && leading < l.plainBelow then l.plain digits d.exponent
  else l.scientific digits leading

def render (l : Layout) (x : Double) : String :=
  if x.isNaN then "NaN"
  else
    let body := if x.isFinite then l.decimal (x.shortest l.tie) else ['i', 'n', 'f']
    String.ofList (if x.isNegative then '-' :: body else body)

end Layout
end CacheService
