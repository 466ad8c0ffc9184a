import CacheService.Number.Reading

/-!
# Numbers in JSON

Reads a number at the front of a document. A whole number that is not negative and fits 64 bits is
an answer. Of any other number the reader only checks that it is well formed and that the nearest
floating point number is finite.
-/

namespace CacheService
namespace Json

inductive Fault where
  /-- the document ends too early -/
  | truncated
  /-- the text is no document -/
  | malformed
  /-- the document is well formed so far but is not of the form that is asked for -/
  | mismatched
  deriving DecidableEq, Repr

/-- A part of a document that was read, and the bytes behind it. -/
abbrev Parsed (α : Type) : Type :=
  Except Fault (α × List UInt8)

def byte (c : Char) : UInt8 :=
  c.toUInt8

def isDigit (b : UInt8) : Bool :=
  byte '0' ≤ b && b ≤ byte '9'

def digitValue (b : UInt8) : Nat :=
  b.toNat - 48

/-- The number that digits spell, behind digits that were read before. -/
def digitsValue (before : Nat) (digits : List UInt8) : Nat :=
  digits.foldl (fun n d => n * 10 + digitValue d) before

/-- Refuses the number `digits * 10 ^ tens` if it is too large. -/
def checkRange (digits : Nat) (tens : Int) : Except Fault Unit :=
  if (Reading.ofDecimal false digits tens).isFinite then .ok () else .error .malformed

/-- The largest number behind an `e`. -/
def mostExponent : Nat :=
  0x7FFFFFFF

def readExponent (digits : Nat) (tens : Int) (bytes : List UInt8) : Parsed Unit :=
  let (negative, bytes) :=
    match bytes with
    | b :: rest =>
      if b = byte '+' then (false, rest)
      else if b = byte '-' then (true, rest)
      else (false, bytes)
    | [] => (false, bytes)
  match bytes with
  | [] => .error .truncated
  | b :: _ =>
    if !isDigit b then .error .malformed
    else
      let rest := bytes.dropWhile isDigit
      let exponent := digitsValue 0 (bytes.takeWhile isDigit)
      if mostExponent < exponent then
        if digits = 0 || negative then .ok ((), rest) else .error .malformed
      else
        (checkRange digits (if negative then tens - exponent else tens + exponent)).map fun _ =>
          ((), rest)

/-- Reads what stands behind the digits of a number with a fraction or a power of ten. -/
def readScaled (digits : Nat) (tens : Int) (bytes : List UInt8) : Parsed Unit :=
  match bytes with
  | b :: rest =>
    if b = byte 'e' || b = byte 'E' then readExponent digits tens rest
    else (checkRange digits tens).map fun _ => ((), bytes)
  | [] => (checkRange digits tens).map fun _ => ((), bytes)

def readFraction (digits : Nat) (bytes : List UInt8) : Parsed Unit :=
  match bytes with
  | [] => .error .truncated
  | b :: _ =>
    if !isDigit b then .error .malformed
    else
      let places := bytes.takeWhile isDigit
      readScaled (digitsValue digits places) (-places.length) (bytes.dropWhile isDigit)

/-- Reads what stands behind the whole part of a number. The answer is the number if it is whole,
not negative and fits 64 bits. -/
def readRest (negative : Bool) (digits : Nat) (bytes : List UInt8) : Parsed (Option Nat) :=
  let inexact (r : Parsed Unit) : Parsed (Option Nat) := r.map fun p => (none, p.2)
  let plain : Parsed (Option Nat) :=
    if digits < UInt64.size then .ok (if negative then none else some digits, bytes)
    else inexact (readScaled digits 0 bytes)
  match bytes with
  | b :: rest =>
    if b = byte '.' then inexact (readFraction digits rest)
    else if b = byte 'e' || b = byte 'E' then inexact (readExponent digits 0 rest)
    else plain
  | [] => plain

def readNumber (negative : Bool) (bytes : List UInt8) : Parsed (Option Nat) :=
  match bytes with
  | [] => .error .truncated
  | b :: rest =>
    if b = byte '0' then
      match rest with
      | c :: _ => if isDigit c then .error .malformed else readRest negative 0 rest
      | [] => readRest negative 0 rest
    else if isDigit b then
      readRest negative (digitsValue 0 (bytes.takeWhile isDigit)) (bytes.dropWhile isDigit)
    else .error .malformed

/-! ## Numbers that are not looked at -/

def skipDigits (bytes : List UInt8) : Except Fault (List UInt8) :=
  match bytes with
  | b :: rest => if isDigit b then .ok (rest.dropWhile isDigit) else .error .malformed
  | [] => .error .malformed

def skipPower (bytes : List UInt8) : Except Fault (List UInt8) :=
  match bytes with
  | b :: rest =>
    if b = byte 'e' || b = byte 'E' then
      match rest with
      | s :: more => skipDigits (if s = byte '+' || s = byte '-' then more else rest)
      | [] => .error .malformed
    else .ok bytes
  | [] => .ok bytes

/-- Skips a number behind its sign. One that is cut short is malformed. -/
def skipNumber (bytes : List UInt8) : Except Fault (List UInt8) := do
  let rest ←
    match bytes with
    | b :: rest =>
      if b = byte '0' then
        match rest with
        | c :: _ => if isDigit c then .error .malformed else .ok rest
        | [] => .ok rest
      else skipDigits bytes
    | [] => .error .malformed
  match rest with
  | b :: more =>
    if b = byte '.' then
      let rest ← skipDigits more
      skipPower rest
    else skipPower rest
  | [] => return rest

end Json
end CacheService
