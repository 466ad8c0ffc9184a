import CacheService.Text.Utf8

/-!
# The bytes of a text are read as that text

`ofBytes?_bytes`: the bytes of a text are decoded to the text. One character at a time is decoded;
the cases are the numbers of bytes that a character can have.
-/

namespace CacheService
namespace Text

/-! ## Steps of the decoder -/

/-- A byte below 128 is a character. -/
theorem decodeFrom_ascii {decoded : List (Option Char)} {b : UInt8} {rest : List UInt8}
    (h : b < 0x80) :
    decodeFrom decoded none (b :: rest) =
      decodeFrom (some (Char.ofNat b.toNat) :: decoded) none rest := by
  simp [decodeFrom, h]

/-- The first byte of a longer character says what is to follow. -/
theorem decodeFrom_lead {decoded : List (Option Char)} {b : UInt8} {rest : List UInt8} {l : Lead}
    (h : ¬ b < 0x80) (hl : lead? b = some l) :
    decodeFrom decoded none (b :: rest) =
      decodeFrom decoded (some ⟨l.bits, l.following, l.low, l.high⟩) rest := by
  simp [decodeFrom, h, hl]

/-- A byte in the range that was asked for adds six bits, and ends the character if it was the last.
-/
theorem decodeFrom_begun {decoded : List (Option Char)} {b : UInt8} {rest : List UInt8} {o : Begun}
    (hlow : o.low ≤ b) (hhigh : b ≤ o.high) :
    decodeFrom decoded (some o) (b :: rest) =
      if o.missing ≤ 1 then
        decodeFrom (some (Char.ofNat (o.bits * 64 + (b.toNat - 0x80))) :: decoded) none rest
      else
        decodeFrom decoded (some ⟨o.bits * 64 + (b.toNat - 0x80), o.missing - 1, 0x80, 0xBF⟩)
          rest := by
  simp [decodeFrom, hlow, hhigh]

/-! ## Bytes as numbers -/

theorem toNat_byte {n : Nat} (h : n < 256) : (UInt8.ofNat n).toNat = n := by
  simp only [UInt8.toNat_ofNat']
  omega

theorem byte_le_iff {n : Nat} (h : n < 256) (b : UInt8) : UInt8.ofNat n ≤ b ↔ n ≤ b.toNat := by
  rw [UInt8.le_iff_toNat_le, toNat_byte h]

theorem le_byte_iff {n : Nat} (h : n < 256) (b : UInt8) : b ≤ UInt8.ofNat n ↔ b.toNat ≤ n := by
  rw [UInt8.le_iff_toNat_le, toNat_byte h]

/-- What a first byte asks for, by the range that it is in. -/
theorem lead?_byte {n : Nat} (h : n < 256) :
    lead? (UInt8.ofNat n) =
      if 0xC2 ≤ n ∧ n ≤ 0xDF then some { bits := n - 0xC0, following := 1 }
      else if n = 0xE0 then some { bits := 0, following := 2, low := 0xA0 }
      else if n = 0xED then some { bits := 13, following := 2, high := 0x9F }
      else if 0xE1 ≤ n ∧ n ≤ 0xEF then some { bits := n - 0xE0, following := 2 }
      else if n = 0xF0 then some { bits := 0, following := 3, low := 0x90 }
      else if 0xF1 ≤ n ∧ n ≤ 0xF3 then some { bits := n - 0xF0, following := 3 }
      else if n = 0xF4 then some { bits := 4, following := 3, high := 0x8F }
      else none := by
  unfold lead?
  simp only [Bool.and_eq_true, decide_eq_true_eq, le_byte_iff h, byte_le_iff h,
    ← UInt8.toNat_inj, toNat_byte h, UInt8.reduceToNat]

/-! ## Characters -/

section Characters

variable {decoded : List (Option Char)} {rest : List UInt8} {n : Nat}

/-- The first byte of a character of several bytes. -/
theorem decodeFrom_first {l : Lead} (hn : n < 256) (h : 0x80 ≤ n)
    (hl : lead? (UInt8.ofNat n) = some l) :
    decodeFrom decoded none (UInt8.ofNat n :: rest) =
      decodeFrom decoded (some ⟨l.bits, l.following, l.low, l.high⟩) rest := by
  have : ¬ UInt8.ofNat n < 0x80 := by
    rw [UInt8.lt_iff_toNat_lt, toNat_byte hn]
    simpa using h
  exact decodeFrom_lead this hl

/-- A byte in the middle of a character. -/
theorem decodeFrom_middle {o : Begun} (hn : n < 256) (hlow : o.low.toNat ≤ n)
    (hhigh : n ≤ o.high.toNat) (hm : 1 < o.missing) :
    decodeFrom decoded (some o) (UInt8.ofNat n :: rest) =
      decodeFrom decoded (some ⟨o.bits * 64 + (n - 0x80), o.missing - 1, 0x80, 0xBF⟩) rest := by
  rw [decodeFrom_begun ((le_byte_iff hn _).2 hlow) ((byte_le_iff hn _).2 hhigh), toNat_byte hn,
    if_neg (by omega)]

/-- The last byte of a character. -/
theorem decodeFrom_last {o : Begun} (hn : n < 256) (hlow : o.low.toNat ≤ n)
    (hhigh : n ≤ o.high.toNat) (hm : o.missing = 1) :
    decodeFrom decoded (some o) (UInt8.ofNat n :: rest) =
      decodeFrom (some (Char.ofNat (o.bits * 64 + (n - 0x80))) :: decoded) none rest := by
  rw [decodeFrom_begun ((le_byte_iff hn _).2 hlow) ((byte_le_iff hn _).2 hhigh), toNat_byte hn,
    if_pos (by omega)]

/-- The first byte of a character of three bytes, and what the byte after it may be. -/
theorem lead?_of_three {v : Nat} (h : 0x7FF < v) (h' : v ≤ 0xFFFF) (hv : v.isValidChar) :
    ∃ low high : UInt8,
      lead? (UInt8.ofNat (v / 4096 % 0x10 + 0xE0)) = some ⟨v / 4096, 2, low, high⟩ ∧
        low.toNat ≤ v / 64 % 0x40 + 0x80 ∧ v / 64 % 0x40 + 0x80 ≤ high.toNat := by
  rw [lead?_byte (by omega)]
  have hv : v < 0xD800 ∨ 0xDFFF < v := by
    rcases hv with hv | hv
    · exact Or.inl hv
    · exact Or.inr hv.1
  -- the byte after the first has fewer values where it could make a shorter character, or half
  -- of a pair
  by_cases h0 : v / 4096 = 0
  · refine ⟨0xA0, 0xBF, ?_, ?_, ?_⟩
    · simp [h0]
    · simp
      omega
    · simp
      omega
  · by_cases h13 : v / 4096 = 13
    · refine ⟨0x80, 0x9F, ?_, ?_, ?_⟩
      · simp [h13]
      · simp
      · simp
        omega
    · refine ⟨0x80, 0xBF, ?_, ?_, ?_⟩
      · rw [if_neg (by omega), if_neg (by omega), if_neg (by omega), if_pos (by omega)]
        simp
        omega
      · simp
      · simp
        omega

/-- The first byte of a character of four bytes, and what the byte after it may be. -/
theorem lead?_of_four {v : Nat} (h : 0xFFFF < v) (hv : v.isValidChar) :
    ∃ low high : UInt8,
      lead? (UInt8.ofNat (v / 262144 % 0x08 + 0xF0)) = some ⟨v / 262144, 3, low, high⟩ ∧
        low.toNat ≤ v / 4096 % 0x40 + 0x80 ∧ v / 4096 % 0x40 + 0x80 ≤ high.toNat := by
  rw [lead?_byte (by omega)]
  have hv : v < 0x110000 := by
    rcases hv with hv | hv
    · omega
    · exact hv.2
  -- and after four bytes also where it could make more than the last character
  by_cases h0 : v / 262144 = 0
  · refine ⟨0x90, 0xBF, ?_, ?_, ?_⟩
    · simp [h0]
    · simp
      omega
    · simp
      omega
  · by_cases h4 : v / 262144 = 4
    · refine ⟨0x80, 0x8F, ?_, ?_, ?_⟩
      · simp [h4]
      · simp
      · simp
        omega
    · refine ⟨0x80, 0xBF, ?_, ?_, ?_⟩
      · rw [if_neg (by omega), if_neg (by omega), if_neg (by omega), if_neg (by omega),
          if_neg (by omega), if_pos (by omega)]
        simp
        omega
      · simp
      · simp
        omega

/-- The bytes of a character are decoded to the character. -/
theorem decodeFrom_utf8EncodeChar (c : Char) :
    decodeFrom decoded none (String.utf8EncodeChar c ++ rest) =
      decodeFrom (some c :: decoded) none rest := by
  have hvalid : c.val.toNat.isValidChar := c.valid
  have hchar : Char.ofNat c.val.toNat = c := Char.ofNat_toNat c
  -- by the number of bytes, which give the bits of the character six by six
  fun_cases String.utf8EncodeChar c with
  | case1 v h =>
    have hb : UInt8.ofNat v < 0x80 := by
      rw [UInt8.lt_iff_toNat_lt, toNat_byte (by omega)]
      simpa using Nat.lt_succ_of_le h
    rw [List.singleton_append, decodeFrom_ascii hb, toNat_byte (by omega), hchar]
  | case2 v h h2 =>
    have hl : lead? (UInt8.ofNat (v / 64 % 0x20 + 0xC0)) =
        some { bits := v / 64, following := 1 } := by
      rw [lead?_byte (by omega), if_pos (by omega)]
      simp
      omega
    have hv : v / 64 * 64 + (v % 0x40 + 0x80 - 0x80) = v := by omega
    simp only [List.cons_append, List.nil_append]
    rw [decodeFrom_first (by omega) (by omega) hl,
      decodeFrom_last (by omega) (by simp) (by simp; omega) rfl, hv, hchar]
  | case3 v h h2 h3 =>
    obtain ⟨low, high, hl, hlow, hhigh⟩ := lead?_of_three (by omega) h3 hvalid
    have hv : (v / 4096 * 64 + (v / 64 % 0x40 + 0x80 - 0x80)) * 64 + (v % 0x40 + 0x80 - 0x80) =
        v := by omega
    simp only [List.cons_append, List.nil_append]
    rw [decodeFrom_first (by omega) (by omega) hl,
      decodeFrom_middle (by omega) hlow hhigh (by simp),
      decodeFrom_last (by omega) (by simp) (by simp; omega) rfl, hv, hchar]
  | case4 v h h2 h3 =>
    obtain ⟨low, high, hl, hlow, hhigh⟩ := lead?_of_four (by omega) hvalid
    have hv : ((v / 262144 * 64 + (v / 4096 % 0x40 + 0x80 - 0x80)) * 64 +
        (v / 64 % 0x40 + 0x80 - 0x80)) * 64 + (v % 0x40 + 0x80 - 0x80) = v := by omega
    simp only [List.cons_append, List.nil_append]
    rw [decodeFrom_first (by omega) (by omega) hl,
      decodeFrom_middle (by omega) hlow hhigh (by simp),
      decodeFrom_middle (by omega) (by simp) (by simp; omega) (by simp),
      decodeFrom_last (by omega) (by simp) (by simp; omega) rfl, hv, hchar]

end Characters

/-! ## Texts -/

/-- The bytes of a text are those of its characters. -/
theorem bytes_eq (s : String) : bytes s = s.toList.flatMap String.utf8EncodeChar := by
  unfold bytes
  rw [String.toUTF8_eq_toByteArray, ← String.utf8Encode_toList]
  simp [List.utf8Encode]

theorem bytes_append (s s' : String) : bytes (s ++ s') = bytes s ++ bytes s' := by
  rw [bytes_eq, bytes_eq, bytes_eq, String.toList_append, List.flatMap_append]

/-- The bytes of characters in a row are decoded to these characters. -/
theorem decodeFrom_flatMap (cs : List Char) (decoded : List (Option Char)) :
    decodeFrom decoded none (cs.flatMap String.utf8EncodeChar) =
      (cs.map some).reverse ++ decoded := by
  induction cs generalizing decoded with
  | nil => simp [decodeFrom]
  | cons c cs ih =>
    rw [List.flatMap_cons, decodeFrom_utf8EncodeChar, ih]
    simp

/-- The bytes of a text are read as that text. -/
theorem ofBytes?_bytes (s : String) : ofBytes? (bytes s) = some s := by
  have hdecode : decode (bytes s) = s.toList.map some := by
    unfold decode
    rw [bytes_eq, decodeFrom_flatMap]
    simp
  unfold ofBytes?
  rw [hdecode]
  simp

end Text
end CacheService
