import CacheService.Text.LowerCase

/-!
# Small letters stay small

The small letters of a character are their own small letters, so a text in lower case is not changed
by lower-casing it again (`lowerCase_lowerCase`).

For the table of capitals this says that the small letters of one run are capitals of no run. Two
runs are compared by their ends, and by parity where one lies within the other (`Run.apart`).
-/

namespace CacheService
namespace Text

/-! ## The table of capitals -/

namespace Case

/-- The small letters of the first run are no capitals of the second. -/
def Run.apart (r q : Run) : Bool :=
  (r.target + (r.last - r.first)).blt q.first || q.last.blt r.target ||
    (q.step == 2 && (r.step == 2 || r.first == r.last) && (r.target + q.first) % 2 == 1)

/-- The small letters of a run are characters, and the capital I with a dot is none of them. -/
def Run.Lands (r : Run) : Prop :=
  (r.target + (r.last - r.first) < 0xD800 ∨
      0xDFFF < r.target ∧ r.target + (r.last - r.first) < 0x110000) ∧
    (r.target + (r.last - r.first) < 0x130 ∨ 0x130 < r.target)

instance (r : Run) : Decidable r.Lands :=
  inferInstanceAs (Decidable (_ ∧ _))

/-- No small letter of any run is a capital of any run. -/
theorem runs_apart : runs.all (fun r => runs.all r.apart) = true := by
  decide +kernel

/-- The small letters of all runs are characters. -/
theorem runs_land : ∀ r ∈ runs, r.Lands := by
  decide +kernel

theorem Run.covers_iff (r : Run) (code : Nat) :
    r.covers code = true ↔ r.first ≤ code ∧ code ≤ r.last ∧ (code - r.first) % r.step = 0 := by
  simp [covers, and_assoc]

/-- A small letter of the one run is no capital of the other. -/
theorem Run.not_covers_of_apart {r q : Run} (h : r.apart q = true) {code : Nat}
    (hr : r.covers code = true) : q.covers (r.lower code) = false := by
  rw [← Bool.not_eq_true, covers_iff, lower]
  obtain ⟨hfirst, hlast, hstep⟩ := (covers_iff r code).1 hr
  simp only [apart, Bool.or_eq_true, Bool.and_eq_true, Nat.blt_eq, beq_iff_eq, or_assoc,
    and_assoc] at h
  rintro ⟨h1, h2, h3⟩
  rcases h with h | h | ⟨hq, hr, hodd⟩
  · omega
  · omega
  · -- the small letters all have the parity of the first one, and the capitals have the other
    have heven : (code - r.first) % 2 = 0 := by
      rcases hr with hr | hr
      · rwa [hr] at hstep
      · omega
    rw [hq] at h3
    omega

/-- The code point of a small letter of a run is the code point of a character, and of no capital
in the table. -/
theorem toNat_lower {r : Run} (hr : r ∈ runs) {code : Nat} (hc : r.covers code = true) :
    (Char.ofNat (r.lower code)).toNat = r.lower code ∧ r.lower code ≠ 0x130 := by
  obtain ⟨hvalid, hdot⟩ := runs_land r hr
  obtain ⟨hfirst, hlast, -⟩ := (Run.covers_iff r code).1 hc
  have hlower : r.lower code = r.target + (code - r.first) := rfl
  have hchar : (r.lower code).isValidChar := by
    unfold Nat.isValidChar
    omega
  refine ⟨?_, by omega⟩
  rw [Char.ofNat, dif_pos hchar]
  rfl

end Case

/-! ## One character -/

/-- The capital I with a dot is the only character whose small form has two. -/
theorem smallLetters_eq (c : Char) :
    (c = 'İ' ∧ smallLetters c = ['i', '\u0307']) ∨ ∃ small, smallLetters c = [small] := by
  unfold smallLetters
  by_cases hc : c = 'İ'
  · exact .inl ⟨hc, if_pos hc⟩
  · rw [if_neg hc]
    right
    cases Case.runs.find? fun r => r.covers c.toNat with
    | none => exact ⟨c, rfl⟩
    | some r => exact ⟨_, rfl⟩

theorem smallLetters_sigma : smallLetters 'Σ' = ['σ'] := by
  decide +kernel

/-- A character that the table does not have is its own small letter. -/
theorem smallLetters_of_not_covered {c : Char} (hdot : c ≠ 'İ')
    (h : ∀ r ∈ Case.runs, r.covers c.toNat = false) : smallLetters c = [c] := by
  have hnone : (Case.runs.find? fun r => r.covers c.toNat) = none := by
    rw [List.find?_eq_none]
    intro r hr
    simp [h r hr]
  simp only [smallLetters, hdot, if_false, hnone]

/-- Small letters are their own small letters. -/
theorem smallLetters_of_mem {c d : Char} (h : d ∈ smallLetters c) : smallLetters d = [d] := by
  by_cases hc : c = 'İ'
  · have hdot : smallLetters 'İ' = ['i', '\u0307'] := by
      decide +kernel
    have hi : smallLetters 'i' = ['i'] := by
      decide +kernel
    have hmark : smallLetters '\u0307' = ['\u0307'] := by
      decide +kernel
    rw [hc, hdot] at h
    simp only [List.mem_cons, List.not_mem_nil, or_false] at h
    obtain rfl | rfl := h
    · exact hi
    · exact hmark
  · cases hf : Case.runs.find? fun r => r.covers c.toNat with
    | none =>
      -- the character was kept as it is
      have hself : smallLetters c = [c] := by
        simp only [smallLetters, hc, if_false, hf]
      rw [hself] at h
      rw [List.mem_singleton.1 h, hself]
    | some r =>
      have hsmall : smallLetters c = [Char.ofNat (r.lower c.toNat)] := by
        simp only [smallLetters, hc, if_false, hf]
      have hr : r ∈ Case.runs := List.mem_of_find?_eq_some hf
      have hcovers : r.covers c.toNat = true := (List.find?_eq_some_iff_append.1 hf).1
      obtain ⟨htoNat, hne⟩ := Case.toNat_lower hr hcovers
      rw [hsmall] at h
      obtain rfl := List.mem_singleton.1 h
      apply smallLetters_of_not_covered
      · intro hdot
        rw [hdot] at htoNat
        exact hne htoNat.symm
      · intro q hq
        rw [htoNat]
        have hapart := List.all_eq_true.1 (List.all_eq_true.1 Case.runs_apart r hr) q hq
        exact Case.Run.not_covers_of_apart hapart hcovers

/-! ## A whole text -/

/-- A text of characters that are their own small forms is in lower case, because it has no capital
sigma. -/
theorem lowerFrom_of_smallLettersOf {cs : List Char} (h : smallLettersOf cs = cs)
    (before : List Char) : lowerFrom before cs = cs := by
  induction cs generalizing before with
  | nil => rfl
  | cons c rest ih =>
    have hsplit : smallLetters c ++ smallLettersOf rest = c :: rest := h
    rcases smallLetters_eq c with ⟨rfl, hdotted⟩ | ⟨small, hsmall⟩
    · rw [hdotted] at hsplit
      exact absurd (List.cons.inj hsplit).1 (by decide)
    · -- a capital sigma, whose small form depends on what stands around it, is not its own
      rw [hsmall] at hsplit
      obtain ⟨hsame, hrest⟩ := List.cons.inj hsplit
      have hsigma : c ≠ 'Σ' := by
        rintro rfl
        rw [smallLetters_sigma] at hsmall
        rw [← (List.cons.inj hsmall).1] at hsame
        exact absurd hsame (by decide)
      rw [lowerFrom, if_neg hsigma, ih hrest, hsmall, hsame]
      rfl

/-- A text of letters that are their own small forms stays as it is. -/
theorem smallLettersOf_of_forall {cs : List Char} (h : ∀ c ∈ cs, smallLetters c = [c]) :
    smallLettersOf cs = cs := by
  induction cs with
  | nil => rfl
  | cons c rest ih =>
    have hrest := ih fun d hd => h d (List.mem_cons_of_mem c hd)
    have hsplit : smallLettersOf (c :: rest) = smallLetters c ++ smallLettersOf rest := rfl
    rw [hsplit, h c List.mem_cons_self, hrest]
    rfl

/-- Lower-casing leaves small letters only, whichever sigma it chooses. -/
theorem smallLetters_of_mem_lowerFrom {before cs : List Char} {d : Char}
    (h : d ∈ lowerFrom before cs) : smallLetters d = [d] := by
  induction cs generalizing before with
  | nil => cases h
  | cons c rest ih =>
    rw [lowerFrom] at h
    rcases List.mem_append.1 h with hsmall | hrest
    · by_cases hsigma : c = 'Σ'
      · have hfinal : smallLetters 'ς' = ['ς'] := by
          decide +kernel
        have hmiddle : smallLetters 'σ' = ['σ'] := by
          decide +kernel
        rw [if_pos hsigma, List.mem_singleton] at hsmall
        rw [hsmall]
        split
        · exact hfinal
        · exact hmiddle
      · rw [if_neg hsigma] at hsmall
        exact smallLetters_of_mem hsmall
    · exact ih hrest

/-- Whether lower-casing changes a text can be told from its characters one by one. -/
theorem lowerCase_eq_self_iff (s : String) :
    lowerCase s = s ↔ smallLettersOf s.toList = s.toList := by
  constructor
  · intro h
    -- each character is one that lower-casing has left
    have hlist : lowerFrom [] s.toList = s.toList := by
      rw [lowerCase] at h
      rw [← String.toList_ofList (l := lowerFrom [] s.toList), h]
    refine smallLettersOf_of_forall fun c hc => ?_
    rw [← hlist] at hc
    exact smallLetters_of_mem_lowerFrom hc
  · intro h
    rw [lowerCase, lowerFrom_of_smallLettersOf h, String.ofList_toList]

/-- A text in lower case is not changed by lower-casing it again. -/
theorem lowerCase_lowerCase (s : String) : lowerCase (lowerCase s) = lowerCase s := by
  have hsmall : smallLettersOf (lowerFrom [] s.toList) = lowerFrom [] s.toList :=
    smallLettersOf_of_forall fun _ hd => smallLetters_of_mem_lowerFrom hd
  calc
    lowerCase (lowerCase s) = String.ofList (lowerFrom [] (lowerFrom [] s.toList)) := by
      rw [lowerCase, lowerCase, String.toList_ofList]
    _ = lowerCase s := by
      rw [lowerFrom_of_smallLettersOf hsmall, lowerCase]

end Text
end CacheService
