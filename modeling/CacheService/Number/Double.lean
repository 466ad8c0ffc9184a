/-!
# Binary floating point numbers

A number of 64 bits: a sign, eleven bits of exponent and fifty-two of fraction. Everything here is
exact arithmetic on whole numbers followed by one rounding, to the nearest number and, half way
between two, to the one whose last bit is zero.
-/

namespace CacheService

/-- A floating point number, given by its bits. -/
structure Double where
  bits : UInt64
  deriving DecidableEq, Repr, Inhabited

namespace Double

/-! ## Parts of a number -/

/-- The place value of the bit that holds the sign. -/
def signPlace : Nat :=
  1 <<< 63

/-- The place value of the first bit above the fraction. -/
def unitPlace : Nat :=
  1 <<< 52

/-- The bits without the sign. -/
def magnitude (x : Double) : Nat :=
  x.bits.toNat % signPlace

def isNegative (x : Double) : Bool :=
  signPlace ≤ x.bits.toNat

/-- The magnitude of the infinities. Above it lie the values that are not a number. -/
def infiniteMagnitude : Nat :=
  0x7FF * unitPlace

def isNaN (x : Double) : Bool :=
  infiniteMagnitude < x.magnitude

def isFinite (x : Double) : Bool :=
  x.magnitude < infiniteMagnitude

/-- The whole number that is scaled by a power of two. -/
def significand (x : Double) : Nat :=
  if x.magnitude < unitPlace then x.magnitude else unitPlace + x.magnitude % unitPlace

/-- The power of two by which the significand is scaled. -/
def exponent (x : Double) : Int :=
  if x.magnitude < unitPlace then -1074 else (x.magnitude / unitPlace : Nat) - 1075

/-! ## Order -/

/-- The place of a number on the line, equal for the two zeros. -/
def place (x : Double) : Int :=
  if x.isNegative then -(x.magnitude : Int) else x.magnitude

/-- Whether the first number is less. What is not a number is neither less nor greater. -/
def lt (x y : Double) : Bool :=
  !x.isNaN && !y.isNaN && x.place < y.place

def le (x y : Double) : Bool :=
  !x.isNaN && !y.isNaN && x.place ≤ y.place

/-! ## Rounding -/

/-- The quotient rounded to the nearest whole number, and half way to the even one. -/
def roundQuotient (num den : Nat) : Nat :=
  let low := num / den
  let twice := 2 * (num % den)
  if twice < den || (twice == den && low % 2 == 0) then low else low + 1

/-- The exponent of the largest power of two that is not above the positive quotient. -/
def quotientLog (num den : Nat) : Int :=
  let guess := (num.log2 : Int) - den.log2
  if num <<< (-guess).toNat < den <<< guess.toNat then guess - 1 else guess

def nearestMagnitude (num den : Nat) : Nat :=
  if num = 0 then 0
  else
    let unit := max (quotientLog num den - 52) (-1074)
    let rounded := roundQuotient (num <<< (-unit).toNat) (den <<< unit.toNat)
    min ((unit + 1074).toNat * unitPlace + rounded) infiniteMagnitude

def ofMagnitude (negative : Bool) (magnitude : Nat) : Double :=
  ⟨UInt64.ofNat ((if negative then signPlace else 0) + magnitude)⟩

def opposite (x : Double) : Double :=
  ofMagnitude (!x.isNegative) x.magnitude

def ofQuotient (negative : Bool) (num den : Nat) : Double :=
  ofMagnitude negative (nearestMagnitude num den)

def ofNat (n : Nat) : Double :=
  ofQuotient false n 1

def ofInt (i : Int) : Double :=
  ofQuotient (i < 0) i.natAbs 1

/-! ## Arithmetic on finite numbers -/

def numerator (x : Double) : Nat :=
  x.significand <<< x.exponent.toNat

def denominator (x : Double) : Nat :=
  1 <<< (-x.exponent).toNat

def signedNumerator (x : Double) : Int :=
  if x.isNegative then -(x.numerator : Int) else x.numerator

def truncated (x : Double) : Int :=
  x.signedNumerator.tdiv x.denominator

/-- The rounded sum of two finite numbers. A sum of zero is negative only if both numbers are. -/
def plus (x y : Double) : Double :=
  let num := x.signedNumerator * y.denominator + y.signedNumerator * x.denominator
  if num = 0 then ofMagnitude (x.isNegative && y.isNegative) 0
  else ofQuotient (num < 0) num.natAbs (x.denominator * y.denominator)

def times (x y : Double) : Double :=
  ofQuotient (x.isNegative != y.isNegative) (x.numerator * y.numerator)
    (x.denominator * y.denominator)

/-- The rounded quotient of two finite numbers, the second not zero. -/
def dividedBy (x y : Double) : Double :=
  ofQuotient (x.isNegative != y.isNegative) (x.numerator * y.denominator)
    (x.denominator * y.numerator)

end Double
end CacheService
