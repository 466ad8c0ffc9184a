import CacheService.Number.Double

/-!
# Reading numbers

Whole numbers and floating point numbers as configuration values spell them. Digits are the ten of
ASCII; blanks, separators and trailing characters are refused.
-/

namespace CacheService
namespace Reading

def digit? (c : Char) : Option Nat :=
  if '0' ≤ c && c ≤ '9' then some (c.toNat - '0'.toNat) else none

def isDigit (c : Char) : Bool :=
  (digit? c).isSome

def digitsValue (cs : List Char) : Nat :=
  cs.foldl (fun n c => 10 * n + (c.toNat - '0'.toNat)) 0

/-- Removes one sign, and tells whether it was a minus. -/
def unsigned (cs : List Char) : Bool × List Char :=
  match cs with
  | '-' :: rest => (true, rest)
  | '+' :: rest => (false, rest)
  | _ => (false, cs)

/-! ## Whole numbers -/

/-- Reads a whole number below the limit: at least one digit, with one plus sign allowed. -/
def nat? (limit : Nat) (s : String) : Option Nat :=
  let cs :=
    match s.toList with
    | '+' :: rest => rest
    | cs => cs
  if cs.isEmpty || !cs.all isDigit then none
  else
    let n := digitsValue cs
    if n < limit then some n else none

/-! ## Floating point numbers -/

/-- The number nearest to `digits * 10 ^ exponent`. An exponent so far out that the number must be
zero or infinite is not expanded. -/
def ofDecimal (negative : Bool) (digits : Nat) (exponent : Int) : Double :=
  if digits = 0 then Double.ofMagnitude negative 0
  else
    let size := (digits.log2 : Int) * 30103 / 100000 + exponent
    if 400 < size then Double.ofMagnitude negative Double.infiniteMagnitude
    else if size < -400 then Double.ofMagnitude negative 0
    else Double.ofQuotient negative (digits * Nat.pow 10 exponent.toNat)
      (Nat.pow 10 (-exponent).toNat)

/-- Reads the power of ten behind the digits: nothing, or an `e` and a signed run of digits. -/
def powerOfTen? (cs : List Char) : Option Int :=
  match cs with
  | [] => some 0
  | c :: rest =>
    if c = 'e' || c = 'E' then
      let (negative, ds) := unsigned rest
      if ds.isEmpty || !ds.all isDigit then none
      else some (if negative then -(digitsValue ds : Int) else digitsValue ds)
    else none

/-- Reads digits with at most one point among them, and a power of ten. At least one digit stands
before or behind the point. -/
def scaled? (negative : Bool) (cs : List Char) : Option Double :=
  let whole := cs.takeWhile isDigit
  let rest := cs.dropWhile isDigit
  let (places, rest) :=
    match rest with
    | '.' :: behind => (behind.takeWhile isDigit, behind.dropWhile isDigit)
    | _ => ([], rest)
  if whole.isEmpty && places.isEmpty then none
  else
    (powerOfTen? rest).map fun power =>
      ofDecimal negative (digitsValue (whole ++ places)) (power - places.length)

/-- Reads the name of a special value, in any mix of case. -/
def special? (negative : Bool) (cs : List Char) : Option Double :=
  let name := String.ofList (cs.map Char.toLower)
  if name = "nan" then some (Double.ofMagnitude negative (0x7FF8 <<< 48))
  else if name = "inf" || name = "infinity" then
    some (Double.ofMagnitude negative Double.infiniteMagnitude)
  else none

def double? (s : String) : Option Double :=
  let (negative, cs) := unsigned s.toList
  match scaled? negative cs with
  | some x => some x
  | none => special? negative cs

end Reading
end CacheService
