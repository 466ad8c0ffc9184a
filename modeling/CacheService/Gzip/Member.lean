import CacheService.Gzip.Checksum
import CacheService.Gzip.Inflate

/-!
# Gzip members

A member is a header, compressed data, and a trailer with the checksum and the length of the data.
`pack` writes one, with the data as it is; `unpack` reads one, however it was compressed, and does
not look at what stands behind it.
-/

namespace CacheService
namespace Gzip

/-- The bytes of a number of 32 bits, lowest first. -/
def word (n : UInt32) : List UInt8 :=
  [n.toUInt8, (n >>> 8).toUInt8, (n >>> 16).toUInt8, (n >>> 24).toUInt8]

def lengthWord (bytes : List UInt8) : List UInt8 :=
  word (UInt32.ofNat bytes.length)

/-! ## Writing -/

/-- The header of a member without a name or a time. -/
def plainHeader : List UInt8 :=
  [0x1F, 0x8B, 8, 0, 0, 0, 0, 0, 0, 0xFF]

def longestBlock : Nat :=
  0xFFFF

def halfWord (n : Nat) : List UInt8 :=
  [UInt8.ofNat n, UInt8.ofNat (n / 256)]

def writeBlock (isLast : Bool) (bytes : List UInt8) : List UInt8 :=
  (if isLast then 1 else 0) :: (halfWord bytes.length ++ halfWord (0xFFFF - bytes.length) ++ bytes)

def writeBlocks (bytes : List UInt8) : List UInt8 :=
  if bytes.length ≤ longestBlock then writeBlock true bytes
  else writeBlock false (bytes.take longestBlock) ++ writeBlocks (bytes.drop longestBlock)
termination_by bytes.length
decreasing_by
  simp only [List.length_drop, longestBlock] at *
  omega

/-- A member that holds the bytes. -/
def pack (bytes : List UInt8) : List UInt8 :=
  plainHeader ++ writeBlocks bytes ++ word (checksum bytes) ++ lengthWord bytes

/-! ## Reading -/

structure Flags where
  checksum : Bool
  extra : Bool
  name : Bool
  comment : Bool

/-- Reads the flags. The three highest bits must be zero. -/
def flags? (b : UInt8) : Option Flags :=
  if b &&& 0xE0 = 0 then
    some {
      checksum := b &&& 2 != 0
      extra := b &&& 4 != 0
      name := b &&& 8 != 0
      comment := b &&& 16 != 0 }
  else none

/-- Skips a field that begins with its length. -/
def skipCounted : List UInt8 → Except IoError (List UInt8)
  | a :: b :: rest =>
    let length := a.toNat + 256 * b.toNat
    if rest.length < length then .error .unexpectedEnd else .ok (rest.drop length)
  | _ => .error .unexpectedEnd

/-- Skips a field that ends with a zero. -/
def skipText (bytes : List UInt8) : Except IoError (List UInt8) :=
  match bytes.dropWhile (· != 0) with
  | _ :: rest => .ok rest
  | [] => .error .unexpectedEnd

/-- Skips the checksum of the header, which is part of the checksum of the bytes before it. -/
def skipChecksum (all : List UInt8) : List UInt8 → Except IoError (List UInt8)
  | a :: b :: rest =>
    let header := all.take (all.length - (rest.length + 2))
    if a.toNat + 256 * b.toNat = (checksum header).toNat % UInt16.size then .ok rest
    else .error .checksumMismatch
  | _ => .error .unexpectedEnd

/-- Skips the header. Its first ten bytes are taken as one. -/
def skipHeader (all : List UInt8) : Except IoError (List UInt8) :=
  match all with
  | m :: n :: method :: flagByte :: _ :: _ :: _ :: _ :: _ :: _ :: rest =>
    match flags? flagByte with
    | none => .error .invalidGzipHeader
    | some flags =>
      if m = 0x1F && n = 0x8B && method = 8 then do
        let rest ← if flags.extra then skipCounted rest else .ok rest
        let rest ← if flags.name then skipText rest else .ok rest
        let rest ← if flags.comment then skipText rest else .ok rest
        if flags.checksum then skipChecksum all rest else .ok rest
      else .error .invalidGzipHeader
  | _ => .error .unexpectedEnd

def checkTrailer (bytes : List UInt8) (trailer : List UInt8) : Except IoError Unit :=
  if trailer.length < 8 then .error .unexpectedEnd
  else if trailer.take 8 = word (checksum bytes) ++ lengthWord bytes then .ok ()
  else .error .checksumMismatch

/-- The bytes that a member holds. -/
def unpack (member : List UInt8) : Except IoError (List UInt8) := do
  let compressed ← skipHeader member
  let (out, trailer) ← inflate compressed
  let bytes := out.toList
  checkTrailer bytes trailer
  return bytes

end Gzip
end CacheService
