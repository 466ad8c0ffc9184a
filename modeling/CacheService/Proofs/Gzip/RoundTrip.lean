import CacheService.Gzip.Member
import CacheService.Proofs.Outcome

/-!
# Members are read as they were written

`unpack_pack`: what was packed is unpacked as it was. The proof follows the blocks that hold the
bytes as they are, one after the other, and then the trailer.
-/

namespace CacheService
namespace Gzip

open Outcome

/-- Two bytes make the number that they were cut from. -/
theorem toNat_halfWord {n : Nat} (h : n ≤ 0xFFFF) :
    (UInt8.ofNat n).toNat + 256 * (UInt8.ofNat (n / 256)).toNat = n := by
  simp only [UInt8.toNat_ofNat']
  omega

/-- The mark and the kind of a block that holds its bytes as they are. -/
theorem blockHead (isLast : Bool) (rest : List UInt8) :
    ∃ s s' : Bits,
      Bits.next { bytes := (if isLast then 1 else 0) :: rest } = .ok (isLast, s) ∧
        s.number 2 = .ok (0, s') ∧ s'.aligned = rest := by
  -- after the mark and the kind, five bits of the byte are left over
  cases isLast with
  | false =>
    refine ⟨{ begun := List.replicate 7 false, bytes := rest },
      { begun := List.replicate 5 false, bytes := rest }, ?_, ?_, rfl⟩
    · have hbits : bitsOf 0 = List.replicate 8 false := by decide
      simp [Bits.next, Bits.next?, hbits]
    · rfl
  | true =>
    refine ⟨{ begun := List.replicate 7 false, bytes := rest },
      { begun := List.replicate 5 false, bytes := rest }, ?_, ?_, rfl⟩
    · have hbits : bitsOf 1 = true :: List.replicate 7 false := by decide
      simp [Bits.next, Bits.next?, hbits]
    · rfl

/-- A block that holds its bytes as they are begins with their number and the complement of that. -/
theorem storedBlock_eq {s : Bits} {bytes rest : List UInt8} (out : Array UInt8)
    (hlen : bytes.length ≤ longestBlock)
    (hs : s.aligned =
      halfWord bytes.length ++ halfWord (0xFFFF - bytes.length) ++ bytes ++ rest) :
    storedBlock s out = .ok ({ bytes := rest }, out ++ bytes) := by
  have h1 := toNat_halfWord hlen
  have h2 := toNat_halfWord (n := 0xFFFF - bytes.length) (by omega)
  have hsum : bytes.length + (0xFFFF - bytes.length) = 0xFFFF := by
    have : bytes.length ≤ 0xFFFF := hlen
    omega
  unfold storedBlock
  rw [hs]
  simp only [halfWord, List.cons_append, List.nil_append, h1, h2, hsum]
  simp

/-- Reading a block appends its bytes, and goes on behind it unless it was the last one. -/
theorem blocks_writeBlock {isLast : Bool} {bytes rest : List UInt8} (bound : Nat)
    (out : Array UInt8) (hlen : bytes.length ≤ longestBlock) :
    blocks (bound + 1) { bytes := writeBlock isLast bytes ++ rest } out =
      if isLast then .ok ({ bytes := rest }, out ++ bytes)
      else blocks bound { bytes := rest } (out ++ bytes) := by
  obtain ⟨s, s', h1, h2, h3⟩ := blockHead isLast
    (halfWord bytes.length ++ halfWord (0xFFFF - bytes.length) ++ bytes ++ rest)
  have h4 := storedBlock_eq out hlen h3
  rw [blocks]
  simp only [writeBlock, List.cons_append, h1, h2, ok_bind, block, h4]
  cases isLast <;> simp

/-- Blocks that were written are read back one by one, and nothing behind the last one is touched.
-/
theorem blocks_writeBlocks (bytes rest : List UInt8) (bound : Nat) (out : Array UInt8)
    (hb : (writeBlocks bytes).length ≤ bound) :
    blocks bound { bytes := writeBlocks bytes ++ rest } out =
      .ok ({ bytes := rest }, out ++ bytes) := by
  fun_induction writeBlocks bytes generalizing bound out with
  | case1 bytes hlen =>
    -- one block holds all bytes
    obtain ⟨bound, rfl⟩ : ∃ n, bound = n + 1 := by
      cases bound with
      | zero => simp [writeBlock] at hb
      | succ n => exact ⟨n, rfl⟩
    rw [blocks_writeBlock bound out hlen]
    simp
  | case2 bytes hlen ih =>
    -- a full block, and then the blocks of the other bytes
    have htake : (bytes.take longestBlock).length ≤ longestBlock := by
      rw [List.length_take]
      omega
    simp only [writeBlock, List.length_append, List.length_cons, Bool.false_eq_true,
      if_false] at hb
    obtain ⟨bound, rfl⟩ : ∃ n, bound = n + 1 := ⟨bound - 1, by omega⟩
    rw [List.append_assoc, blocks_writeBlock bound out htake]
    simp only [Bool.false_eq_true, if_false]
    rw [ih bound _ (by omega)]
    congr 2
    apply Array.toList_inj.1
    simp [List.take_append_drop]

theorem inflate_writeBlocks (bytes trailer : List UInt8) :
    inflate (writeBlocks bytes ++ trailer) = .ok ((#[] : Array UInt8) ++ bytes, trailer) := by
  unfold inflate
  rw [blocks_writeBlocks bytes trailer _ #[] (by rw [List.length_append]; omega)]
  rfl

theorem skipHeader_plainHeader (rest : List UInt8) :
    skipHeader (plainHeader ++ rest) = .ok rest := by
  have hflags : flags? 0 = some ⟨false, false, false, false⟩ := rfl
  simp [skipHeader, plainHeader, hflags]

theorem checkTrailer_eq_ok (bytes : List UInt8) :
    checkTrailer bytes (word (checksum bytes) ++ lengthWord bytes) = .ok () := by
  simp [checkTrailer, word, lengthWord]

/-- What was packed is unpacked as it was. -/
theorem unpack_pack (bytes : List UInt8) : unpack (pack bytes) = .ok bytes := by
  have hpack : pack bytes =
      plainHeader ++ (writeBlocks bytes ++ (word (checksum bytes) ++ lengthWord bytes)) := by
    simp [pack]
  unfold unpack
  rw [hpack, skipHeader_plainHeader, ok_bind, inflate_writeBlocks, ok_bind]
  simp only [Array.toList_appendList, List.nil_append]
  rw [checkTrailer_eq_ok]
  rfl

end Gzip
end CacheService
