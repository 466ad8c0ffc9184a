/-!
# Texts as bytes

The bytes of a text, and the text of bytes. Bytes that are no text can be refused, or each of their
longest broken parts can be replaced by one mark.
-/

namespace CacheService
namespace Text

def bytes (s : String) : List UInt8 :=
  s.toUTF8.data.toList

/-- What the first byte of a character asks for: its own bits, how many bytes follow, and the range
of the byte after it. Later bytes range over all continuation bytes. -/
structure Lead where
  bits : Nat
  following : Nat
  low : UInt8 := 0x80
  high : UInt8 := 0xBF

/-- Reads the first byte of a character of several bytes. The range of the second byte keeps out
long forms, surrogates and code points that are too large. -/
def lead? (b : UInt8) : Option Lead :=
  if 0xC2 ≤ b && b ≤ 0xDF then some { bits := b.toNat - 0xC0, following := 1 }
  else if b = 0xE0 then some { bits := 0, following := 2, low := 0xA0 }
  else if b = 0xED then some { bits := 13, following := 2, high := 0x9F }
  else if 0xE1 ≤ b && b ≤ 0xEF then some { bits := b.toNat - 0xE0, following := 2 }
  else if b = 0xF0 then some { bits := 0, following := 3, low := 0x90 }
  else if 0xF1 ≤ b && b ≤ 0xF3 then some { bits := b.toNat - 0xF0, following := 3 }
  else if b = 0xF4 then some { bits := 4, following := 3, high := 0x8F }
  else none

structure Begun where
  bits : Nat
  missing : Nat
  low : UInt8
  high : UInt8

/-- Decodes bytes after the given characters, latest first. A broken part is decoded to none. -/
def decodeFrom (decoded : List (Option Char)) (open? : Option Begun) :
    List UInt8 → List (Option Char)
  | [] => if open?.isSome then none :: decoded else decoded
  | b :: rest =>
    let fresh (decoded : List (Option Char)) :=
      if b < 0x80 then decodeFrom (some (Char.ofNat b.toNat) :: decoded) none rest
      else
        match lead? b with
        | some l => decodeFrom decoded (some ⟨l.bits, l.following, l.low, l.high⟩) rest
        | none => decodeFrom (none :: decoded) none rest
    match open? with
    | none => fresh decoded
    | some o =>
      if o.low ≤ b && b ≤ o.high then
        let bits := o.bits * 64 + (b.toNat - 0x80)
        if o.missing ≤ 1 then decodeFrom (some (Char.ofNat bits) :: decoded) none rest
        else decodeFrom decoded (some ⟨bits, o.missing - 1, 0x80, 0xBF⟩) rest
      else fresh (none :: decoded)

/-- The characters of the bytes, with none for each broken part. -/
def decode (bytes : List UInt8) : List (Option Char) :=
  (decodeFrom [] none bytes).reverse

def ofBytes? (bytes : List UInt8) : Option String :=
  let decoded := decode bytes
  if decoded.all Option.isSome then some (String.ofList (decoded.filterMap id)) else none

/-- The text of the bytes, with a mark in place of each broken part. -/
def ofBytes (bytes : List UInt8) : String :=
  String.ofList ((decode bytes).map fun c => c.getD '\uFFFD')

end Text
end CacheService
