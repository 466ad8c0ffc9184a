import CacheService.Error

/-!
# Bits of compressed data

Bytes read bit by bit, the lowest bit of each byte first. Numbers have their lowest bit first. Where
bits are missing the data has been cut short.
-/

namespace CacheService
namespace Gzip

/-- The bits of a byte, lowest first. -/
def bitsOf (b : UInt8) : List Bool :=
  (List.range 8).map fun i => b.toNat.testBit i

/-- The bits that are left of a byte that was begun, and the bytes after it. -/
structure Bits where
  begun : List Bool := []
  bytes : List UInt8

namespace Bits

def length (s : Bits) : Nat :=
  s.begun.length + 8 * s.bytes.length

def next? (s : Bits) : Option (Bool × Bits) :=
  match s.begun with
  | b :: rest => some (b, { s with begun := rest })
  | [] =>
    match s.bytes with
    | [] => none
    | byte :: bytes =>
      match bitsOf byte with
      | b :: rest => some (b, { begun := rest, bytes })
      | [] => none

/-- The next bit of data that must have one. -/
def next (s : Bits) : Except IoError (Bool × Bits) :=
  match s.next? with
  | some r => .ok r
  | none => .error .incompleteDeflate

/-- A number of so many bits. -/
def number (s : Bits) : Nat → Except IoError (Nat × Bits)
  | 0 => .ok (0, s)
  | n + 1 => do
    let (b, s) ← s.next
    let (high, s) ← s.number n
    return (2 * high + b.toNat, s)

/-- The bytes after the one that was begun. -/
def aligned (s : Bits) : List UInt8 :=
  s.bytes

end Bits
end Gzip
end CacheService
