import CacheService.Proofs.Lookup.FiniteMap
import CacheService.Proofs.Lookup.Yield
import CacheService.Proofs.Text.FinalSigma

/-!
# Text keys that differ in letter case

Two text keys that are the same in small letters, character by character, are one key of a table
exactly if the same of their letters stand for capital sigmas that end words (`case_variants`).
Without a capital sigma they always are. A capital sigma at the end of a word is stored as the final
sigma, which is not found under the spelling with the other small sigma (`sigma_variants_apart`).
-/

namespace CacheService

open Text

namespace KeyTable

variable {α : Type}

/-- A key has one entry under all its spellings. -/
theorem insert_insert_of_normal_eq (t : KeyTable α) {e e' : Entry α}
    (h : e.key.normal = e'.key.normal) : (t.insert e).insert e' = t.insert ⟨e.key, e'.value⟩ := by
  unfold insert
  congr 1
  apply Std.ExtTreeMap.ext_getElem?
  intro k
  simp only [Std.ExtTreeMap.getElem?_insert, h]
  split <;> rfl

/-- Entries of an empty table, by whether their keys have the same normal form. -/
theorem size_insert_insert (e e' : Entry α) :
    ((empty.insert e).insert e').size = if e.key.normal = e'.key.normal then 1 else 2 := by
  have hsize := size_insertMany [e, e']
  rw [List.map_cons, List.map_cons, List.map_nil] at hsize
  have hlast : [e'.key.normal].dedup = [e'.key.normal] := (List.nodup_singleton _).dedup
  refine hsize.trans ?_
  by_cases h : e.key.normal = e'.key.normal
  · rw [if_pos h, h, List.dedup_cons_of_mem List.mem_cons_self, hlast]
    rfl
  · rw [if_neg h, List.dedup_cons_of_notMem (by simpa using h), hlast]
    rfl

/-- Entries under other keys leave a key as it is. -/
theorem lastValue?_of_normal_ne {es : List (Entry α)} {k : Key}
    (h : ∀ e ∈ es, e.key.normal ≠ k.normal) : lastValue? es k = none := by
  rw [lastValue?, Option.map_eq_none_iff, List.find?_eq_none]
  intro e he
  simpa using h e (List.mem_reverse.1 he)

/-! ## Variants of a key -/

/-- Text keys that are the same in small letters, character by character, are one key if the same
of their letters stand for capital sigmas that end words, as is so for keys without a capital sigma:
what is stored or loaded under one is found under the other, and both have one entry. If not, they
are two keys: neither is found under the other, and both are stored side by side. -/
theorem case_variants {s s' : String}
    (hletters : smallLettersOf s.toList = smallLettersOf s'.toList) (t : KeyTable α) :
    ('Σ' ∉ s.toList → 'Σ' ∉ s'.toList → finalCapitals s = finalCapitals s') ∧
      (finalCapitals s = finalCapitals s' →
        (∀ v, (t.insert ⟨.text s, v⟩).get? (.text s') = some v) ∧
        (∀ v v', (t.insert ⟨.text s, v⟩).insert ⟨.text s', v'⟩ = t.insert ⟨.text s, v'⟩ ∧
          ((empty.insert ⟨.text s, v⟩).insert ⟨.text s', v'⟩).size = 1) ∧
        ∀ i c, (t.load i c).2.2.get? (.text s') =
          (lastValue? (i.yield c).entries (.text s)).or (t.get? (.text s))) ∧
      (finalCapitals s ≠ finalCapitals s' →
        (∀ v, (t.insert ⟨.text s, v⟩).get? (.text s') = t.get? (.text s')) ∧
        (∀ v v', ((t.insert ⟨.text s, v⟩).insert ⟨.text s', v'⟩).get? (.text s) = some v ∧
          ((empty.insert ⟨.text s, v⟩).insert ⟨.text s', v'⟩).size = 2) ∧
        ∀ i c, (∀ e ∈ (i.yield c).entries, e.key = .text s) →
          (t.load i c).2.2.get? (.text s') = t.get? (.text s')) := by
  have hnormal : (Key.text s).normal = (Key.text s').normal ↔
      finalCapitals s = finalCapitals s' := by
    rw [← lowerCase_eq_iff hletters, Key.normal, Key.normal, Key.text.injEq]
  refine ⟨?_, ?_, ?_⟩
  · intro h h'
    rw [finalCapitals, finalCapitals, finalCapitalsFrom_of_not_mem h,
      finalCapitalsFrom_of_not_mem h', hletters]
  · intro hsame
    rw [← hnormal] at hsame
    refine ⟨fun v => ?_, fun v v' => ⟨?_, ?_⟩, fun i c => ?_⟩
    · rw [get?_insert, if_pos hsame]
    · exact insert_insert_of_normal_eq t hsame
    · rw [size_insert_insert, if_pos hsame]
    · -- both spellings are looked up in one normal form
      have hspelled : ∀ es : List (Entry α),
          lastValue? es (.text s') = lastValue? es (.text s) := by
        intro es
        rw [lastValue?, lastValue?, hsame]
      have hheld : t.get? (.text s') = t.get? (.text s) := by
        rw [get?, get?, Key.renormal_key, Key.renormal_key, hsame]
      rw [(load_spec t i c).1, get?_insertMany, hspelled, hheld]
  · intro hother
    rw [Ne, ← hnormal] at hother
    refine ⟨fun v => ?_, fun v v' => ⟨?_, ?_⟩, fun i c hkeys => ?_⟩
    · rw [get?_insert, if_neg hother]
    · rw [get?_insert, if_neg (Ne.symm hother), get?_insert, if_pos rfl]
    · rw [size_insert_insert, if_neg hother]
    · rw [(load_spec t i c).1, get?_insertMany, lastValue?_of_normal_ne, Option.none_or]
      intro e he
      rwa [hkeys e he]

/-- A word is found under a spelling that keeps its last capital, but not under one that ends with a
plain small sigma. -/
theorem case_variants_word :
    smallLettersOf "ΣΟΦΟΣ".toList = smallLettersOf "σοφοΣ".toList ∧
      (∀ v : Nat, (empty.insert ⟨.text "ΣΟΦΟΣ", v⟩).get? (.text "σοφοΣ") = some v) ∧
      smallLettersOf "ΣΟΦΟΣ".toList = smallLettersOf "σοφοσ".toList ∧
      ∀ v v' : Nat, ((empty.insert ⟨.text "ΣΟΦΟΣ", v⟩).insert ⟨.text "σοφοσ", v'⟩).size = 2 := by
  have hletters : smallLettersOf "ΣΟΦΟΣ".toList = smallLettersOf "σοφοΣ".toList := by
    decide +kernel
  have hletters' : smallLettersOf "ΣΟΦΟΣ".toList = smallLettersOf "σοφοσ".toList := by
    decide +kernel
  have hmarks : finalCapitals "ΣΟΦΟΣ" = finalCapitals "σοφοΣ" := by
    decide +kernel
  have hmarks' : finalCapitals "ΣΟΦΟΣ" ≠ finalCapitals "σοφοσ" := by
    decide +kernel
  obtain ⟨-, hsame, -⟩ := case_variants hletters (empty : KeyTable Nat)
  obtain ⟨-, -, hother⟩ := case_variants hletters' (empty : KeyTable Nat)
  exact ⟨hletters, (hsame hmarks).1, hletters', fun v v' => ((hother hmarks').2.1 v v').2⟩

/-- The two spellings differ in letter case only, and are two keys. -/
theorem sigma_variants_apart :
    smallLettersOf "ΑΣ".toList = smallLettersOf "ασ".toList ∧
      (¬ ∀ v : Nat, (empty.insert ⟨.text "ΑΣ", v⟩).get? (.text "ασ") = some v) ∧
      ¬ ∀ v v' : Nat, ((empty.insert ⟨.text "ΑΣ", v⟩).insert ⟨.text "ασ", v'⟩).size = 1 := by
  have hletters : smallLettersOf "ΑΣ".toList = smallLettersOf "ασ".toList := by
    decide +kernel
  have hnormal : (Key.text "ΑΣ").normal ≠ (Key.text "ασ").normal := by
    decide +kernel
  refine ⟨hletters, fun hfound => ?_, fun hone => ?_⟩
  · have hvalue := hfound 0
    rw [get?_insert, if_neg hnormal, get?_empty] at hvalue
    cases hvalue
  · have hsize := hone 0 0
    rw [size_insert_insert, if_neg hnormal] at hsize
    cases hsize

end KeyTable
end CacheService
