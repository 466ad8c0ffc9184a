import CacheService.Gzip.Bits

/-!
# Codes of compressed data

A code is given by the length of each symbol's code word; zero stands for no code word. Code words
of one length are consecutive numbers in the order of their symbols, and shorter ones come first.
-/

namespace CacheService
namespace Gzip

structure Huffman where
  /-- how many code words have one bit, two bits and so on -/
  counts : List Nat
  /-- the symbols in the order of their code words -/
  symbols : Array Nat

namespace Huffman

/-- The most bits of a code word. -/
def longest : Nat :=
  15

def ofLengths (lengths : List Nat) : Huffman where
  counts := (List.range longest).map fun i => lengths.count (i + 1)
  symbols :=
    ((List.range longest).flatMap fun i =>
      lengths.zipIdx.filterMap fun (length, symbol) =>
        if length = i + 1 then some symbol else none).toArray

def used (h : Huffman) : Nat :=
  h.symbols.size

/-- How many of the bit patterns of the longest code words begin with a code word. -/
def covered (h : Huffman) : Nat :=
  h.counts.zipIdx.foldl (fun total (count, i) => total + count <<< (longest - (i + 1))) 0

/-- Whether every sequence of bits begins with exactly one code word. -/
def isComplete (h : Huffman) : Bool :=
  h.covered == 1 <<< longest

/-- Whether the code can be used: it is complete, or has no code word, or one of a single bit. -/
def isUsable (h : Huffman) : Bool :=
  h.isComplete || h.used = 0 || (h.used = 1 && h.counts.head? = some 1)

/-- Decodes a symbol after a number of bits. `code` is the number that those bits make, `first` the
number of the first code word of the next length, and `index` its place among all code words, each
before the next bit is taken. Bits that no code word begins with are refused at the first of them
that leaves no code word. -/
def decodeFrom (symbols : Array Nat) (code first index : Nat) :
    List Nat → Bits → Except IoError (Nat × Bits)
  | [], _ => .error .corruptDeflate
  | count :: counts, s =>
    match s.next with
    | .error e => .error e
    | .ok (b, s) =>
      let code := 2 * code + b.toNat
      let first := 2 * first
      if code < first + count then
        match symbols[index + (code - first)]? with
        | some symbol => .ok (symbol, s)
        | none => .error .corruptDeflate
      else if symbols.size ≤ index + count then .error .corruptDeflate
      else decodeFrom symbols code (first + count) (index + count) counts s

def decode (h : Huffman) (s : Bits) : Except IoError (Nat × Bits) :=
  decodeFrom h.symbols 0 0 0 h.counts s

end Huffman
end Gzip
end CacheService
