import CacheService.Proofs.Text.LowerCase
import Mathlib.Data.List.Forall2

/-!
# Where lower-casing looks beyond a character

A text is lower-cased like each of its characters by itself, but for the capital sigmas at the ends
of words. `finalCapitals` marks the small letters that stand for these. Two texts that are the same
character by character are the same in lower case exactly if they have the same marks
(`lowerCase_eq_iff`). A text without a capital sigma has no marks.
-/

namespace CacheService
namespace Text

/-- For each small letter of the rest of a text, whether it stands for a capital sigma that ends a
word. The characters before are given nearest first. -/
def finalCapitalsFrom (before : List Char) : List Char → List Bool
  | [] => []
  | c :: after =>
    (if c = 'Σ' then [endsWord before after] else (smallLetters c).map fun _ => false) ++
      finalCapitalsFrom (c :: before) after

/-- For each small letter of a text, whether it stands for a capital sigma that ends a word. -/
def finalCapitals (s : String) : List Bool :=
  finalCapitalsFrom [] s.toList

/-- A small letter, or the final sigma in its place. -/
def finished (small : Char) (final : Bool) : Char :=
  if final then 'ς' else small

/-- Where no sigma is final, letters stay as they are. -/
theorem zipWith_finished_unmarked (letters : List Char) :
    letters.zipWith finished (letters.map fun _ => false) = letters := by
  induction letters with
  | nil => rfl
  | cons small rest ih =>
    rw [List.map_cons, List.zipWith_cons_cons, ih]
    rfl

/-- Lower-casing a text puts a final sigma in place of the marked letters. -/
theorem lowerFrom_eq_zipWith (before cs : List Char) :
    lowerFrom before cs =
      (smallLettersOf cs).zipWith finished (finalCapitalsFrom before cs) := by
  induction cs generalizing before with
  | nil => rfl
  | cons c after ih =>
    have hsplit : smallLettersOf (c :: after) = smallLetters c ++ smallLettersOf after := rfl
    rw [lowerFrom, finalCapitalsFrom, hsplit]
    by_cases hsigma : c = 'Σ'
    · subst hsigma
      rw [if_pos rfl, if_pos rfl, smallLetters_sigma, ih]
      rfl
    · rw [if_neg hsigma, if_neg hsigma, List.zipWith_append (by simp), zipWith_finished_unmarked,
        ih]

/-- Only small sigmas are marked. -/
theorem forall₂_finalCapitalsFrom (before cs : List Char) :
    List.Forall₂ (fun small final => final = true → small = 'σ') (smallLettersOf cs)
      (finalCapitalsFrom before cs) := by
  induction cs generalizing before with
  | nil => exact .nil
  | cons c after ih =>
    have hsplit : smallLettersOf (c :: after) = smallLetters c ++ smallLettersOf after := rfl
    rw [finalCapitalsFrom, hsplit]
    apply List.rel_append _ (ih _)
    by_cases hsigma : c = 'Σ'
    · subst hsigma
      rw [if_pos rfl, smallLetters_sigma]
      exact .cons (fun _ => rfl) .nil
    · rw [if_neg hsigma, List.forall₂_map_right_iff, List.forall₂_same]
      exact fun _ _ => nofun

/-- What is written in place of the letters tells which were marked. -/
theorem marks_eq_of_zipWith_eq {letters : List Char} {marks marks' : List Bool}
    (h : List.Forall₂ (fun small final => final = true → small = 'σ') letters marks)
    (h' : List.Forall₂ (fun small final => final = true → small = 'σ') letters marks')
    (heq : letters.zipWith finished marks = letters.zipWith finished marks') : marks = marks' := by
  induction h generalizing marks' with
  | nil => exact (List.forall₂_nil_left_iff.1 h').symm
  | @cons small final letters marks hsmall hrest ih =>
    obtain ⟨final', rest', hsmall', hrest', rfl⟩ := List.forall₂_cons_left_iff.1 h'
    rw [List.zipWith_cons_cons, List.zipWith_cons_cons, List.cons.injEq] at heq
    rw [ih hrest' heq.2]
    congr 1
    -- a small sigma that is written as it is was not marked
    cases final <;> cases final'
    · rfl
    · rw [hsmall' rfl] at heq
      exact absurd heq.1 (by decide)
    · rw [hsmall rfl] at heq
      exact absurd heq.1 (by decide)
    · rfl

/-- Texts that are the same character by character are the same in lower case exactly if the same
letters stand for capital sigmas that end words. -/
theorem lowerCase_eq_iff {s s' : String}
    (hletters : smallLettersOf s.toList = smallLettersOf s'.toList) :
    lowerCase s = lowerCase s' ↔ finalCapitals s = finalCapitals s' := by
  have hmarks := forall₂_finalCapitalsFrom [] s.toList
  have hmarks' := forall₂_finalCapitalsFrom [] s'.toList
  unfold lowerCase finalCapitals
  rw [String.ofList_inj, lowerFrom_eq_zipWith, lowerFrom_eq_zipWith]
  rw [hletters] at hmarks ⊢
  exact ⟨marks_eq_of_zipWith_eq hmarks hmarks', fun hsame => by rw [hsame]⟩

/-- A text without a capital sigma has no final one. -/
theorem finalCapitalsFrom_of_not_mem {cs : List Char} (h : 'Σ' ∉ cs) (before : List Char) :
    finalCapitalsFrom before cs = (smallLettersOf cs).map fun _ => false := by
  induction cs generalizing before with
  | nil => rfl
  | cons c after ih =>
    have hsplit : smallLettersOf (c :: after) = smallLetters c ++ smallLettersOf after := rfl
    obtain ⟨hc, hafter⟩ := List.ne_and_not_mem_of_not_mem_cons h
    rw [finalCapitalsFrom, if_neg (Ne.symm hc), ih hafter, hsplit, List.map_append]

end Text
end CacheService
