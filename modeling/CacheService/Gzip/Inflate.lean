import CacheService.Gzip.Huffman

/-!
# Compressed data

Compressed data is a sequence of blocks, the last one marked. A block holds its bytes as they are,
or as symbols of two codes: bytes, the end of the block, and lengths, each with a distance from
which that many bytes are repeated. A distance that goes back beyond the first byte finds zeros.
-/

namespace CacheService
namespace Gzip

/-! ## Lengths and distances -/

/-- The least value of a symbol, and how many bits are added to it. -/
structure Span where
  least : Nat
  bits : Nat

/-- The lengths that the symbols from 257 on stand for. -/
def lengths : List Span := [
  ⟨3, 0⟩, ⟨4, 0⟩, ⟨5, 0⟩, ⟨6, 0⟩, ⟨7, 0⟩, ⟨8, 0⟩, ⟨9, 0⟩, ⟨10, 0⟩, ⟨11, 1⟩, ⟨13, 1⟩, ⟨15, 1⟩,
  ⟨17, 1⟩, ⟨19, 2⟩, ⟨23, 2⟩, ⟨27, 2⟩, ⟨31, 2⟩, ⟨35, 3⟩, ⟨43, 3⟩, ⟨51, 3⟩, ⟨59, 3⟩, ⟨67, 4⟩,
  ⟨83, 4⟩, ⟨99, 4⟩, ⟨115, 4⟩, ⟨131, 5⟩, ⟨163, 5⟩, ⟨195, 5⟩, ⟨227, 5⟩, ⟨258, 0⟩]

/-- The distances that the symbols from zero on stand for. -/
def distances : List Span := [
  ⟨1, 0⟩, ⟨2, 0⟩, ⟨3, 0⟩, ⟨4, 0⟩, ⟨5, 1⟩, ⟨7, 1⟩, ⟨9, 2⟩, ⟨13, 2⟩, ⟨17, 3⟩, ⟨25, 3⟩, ⟨33, 4⟩,
  ⟨49, 4⟩, ⟨65, 5⟩, ⟨97, 5⟩, ⟨129, 6⟩, ⟨193, 6⟩, ⟨257, 7⟩, ⟨385, 7⟩, ⟨513, 8⟩, ⟨769, 8⟩,
  ⟨1025, 9⟩, ⟨1537, 9⟩, ⟨2049, 10⟩, ⟨3073, 10⟩, ⟨4097, 11⟩, ⟨6145, 11⟩, ⟨8193, 12⟩, ⟨12289, 12⟩,
  ⟨16385, 13⟩, ⟨24577, 13⟩]

def spanValue (spans : List Span) (symbol : Nat) (s : Bits) : Except IoError (Nat × Bits) :=
  match spans[symbol]? with
  | none => .error .corruptDeflate
  | some span => do
    let (added, s) ← s.number span.bits
    return (span.least + added, s)

/-- Appends bytes that stand at a distance before the end, one after the other. -/
def copyBack (out : Array UInt8) (distance : Nat) : Nat → Array UInt8
  | 0 => out
  | n + 1 =>
    let byte := if distance ≤ out.size then out.getD (out.size - distance) 0 else 0
    copyBack (out.push byte) distance n

/-! ## Blocks -/

structure Codes where
  literal : Huffman
  distance : Huffman

/-- Decodes symbols up to the end of the block. A symbol takes a bit at least, so the number of bits
that are left bounds the number of symbols. -/
def symbols (codes : Codes) : Nat → Bits → Array UInt8 → Except IoError (Bits × Array UInt8)
  | 0, _, _ => .error .incompleteDeflate
  | bound + 1, s, out =>
    match codes.literal.decode s with
    | .error e => .error e
    | .ok (symbol, s) =>
      if symbol < 256 then symbols codes bound s (out.push (UInt8.ofNat symbol))
      else if symbol = 256 then .ok (s, out)
      else
        match spanValue lengths (symbol - 257) s with
        | .error e => .error e
        | .ok (length, s) =>
          match codes.distance.decode s with
          | .error e => .error e
          | .ok (symbol, s) =>
            match spanValue distances symbol s with
            | .error e => .error e
            | .ok (distance, s) => symbols codes bound s (copyBack out distance length)

/-- The code of literals that needs no description. -/
def fixedLengths : List Nat :=
  List.replicate 144 8 ++ List.replicate 112 9 ++ List.replicate 24 7 ++ List.replicate 8 8

def fixedCodes : Codes where
  literal := .ofLengths fixedLengths
  distance := .ofLengths (List.replicate 32 5)

/-- The order in which the code of code lengths is described. -/
def lengthOrder : List Nat :=
  [16, 17, 18, 0, 8, 7, 9, 6, 10, 5, 11, 4, 12, 3, 13, 2, 14, 1, 15]

def triples (s : Bits) : Nat → Except IoError (List Nat × Bits)
  | 0 => .ok ([], s)
  | n + 1 => do
    let (first, s) ← s.number 3
    let (rest, s) ← triples s n
    return (first :: rest, s)

/-- The lengths of the code of code lengths, by symbol. -/
def lengthsInOrder (described : List Nat) : List Nat :=
  (List.range 19).map fun symbol =>
    match (lengthOrder.zip described).find? fun p => p.1 = symbol with
    | some p => p.2
    | none => 0

/-- Reads code lengths until there are enough, given those before them, latest first. Symbols above
15 repeat the last length or stand for several zeros. -/
def codeLengths (code : Huffman) (total : Nat) :
    Nat → Bits → List Nat → Except IoError (List Nat × Bits)
  | 0, _, _ => .error .incompleteDeflate
  | bound + 1, s, before =>
    if total < before.length then .error .corruptDeflate
    else if total = before.length then .ok (before.reverse, s)
    else
      match code.decode s with
      | .error e => .error e
      | .ok (symbol, s) =>
        if symbol < 16 then codeLengths code total bound s (symbol :: before)
        else
          let run : Except IoError (Nat × Nat × Nat) :=
            if symbol = 16 then
              match before with
              | last :: _ => .ok (last, 3, 2)
              | [] => .error .corruptDeflate
            else if symbol = 17 then .ok (0, 3, 3)
            else .ok (0, 11, 7)
          match run with
          | .error e => .error e
          | .ok (length, least, bits) =>
            match s.number bits with
            | .error e => .error e
            | .ok (added, s) =>
              codeLengths code total bound s (List.replicate (least + added) length ++ before)

def symbolCode (lengths : List Nat) : Except IoError Huffman :=
  let code := Huffman.ofLengths lengths
  if code.isUsable then .ok code else .error .corruptDeflate

def describedCodes (s : Bits) : Except IoError (Codes × Bits) := do
  let (literals, s) ← s.number 5
  let (distances, s) ← s.number 5
  let (described, s) ← s.number 4
  let literals := literals + 257
  let distances := distances + 1
  if 286 < literals || 30 < distances then throw .corruptDeflate
  let (order, s) ← triples s (described + 4)
  let code := Huffman.ofLengths (lengthsInOrder order)
  if !code.isComplete then throw .corruptDeflate
  let (all, s) ← codeLengths code (literals + distances) (s.length + 1) s []
  let literal ← symbolCode (all.take literals)
  let distance ← symbolCode (all.drop literals)
  return ({ literal, distance }, s)

/-- Appends the bytes of a block that holds them as they are. -/
def storedBlock (s : Bits) (out : Array UInt8) : Except IoError (Bits × Array UInt8) :=
  match s.aligned with
  | a :: b :: c :: d :: rest =>
    let length := a.toNat + 256 * b.toNat
    if length + (c.toNat + 256 * d.toNat) ≠ 0xFFFF then .error .corruptDeflate
    else
      let bytes := rest.take length
      if bytes.length < length then .error .incompleteDeflate
      else .ok ({ bytes := rest.drop length }, out ++ bytes)
  | _ => .error .incompleteDeflate

def block (kind : Nat) (s : Bits) (out : Array UInt8) : Except IoError (Bits × Array UInt8) :=
  match kind with
  | 0 => storedBlock s out
  | 1 => symbols fixedCodes s.length s out
  | 2 => do
    let (codes, s) ← describedCodes s
    symbols codes s.length s out
  | _ => .error .corruptDeflate

/-- Decodes blocks up to the last one. A block takes a bit at least. -/
def blocks : Nat → Bits → Array UInt8 → Except IoError (Bits × Array UInt8)
  | 0, _, _ => .error .incompleteDeflate
  | bound + 1, s, out => do
    let (isLast, s) ← s.next
    let (kind, s) ← s.number 2
    let (s, out) ← block kind s out
    if isLast then return (s, out)
    blocks bound s out

/-- Decodes compressed data, and answers the bytes behind it as well. -/
def inflate (bytes : List UInt8) : Except IoError (Array UInt8 × List UInt8) := do
  let (s, out) ← blocks (8 * bytes.length + 1) { bytes } #[]
  return (out, s.aligned)

end Gzip
end CacheService
