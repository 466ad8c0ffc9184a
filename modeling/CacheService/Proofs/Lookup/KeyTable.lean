import CacheService.Lookup.KeyTable
import CacheService.Proofs.Text.LowerCase

/-!
# What a table holds under a key

Storing and reading normalise keys in two ways that agree, so a table answers for every key what was
stored last under a key with the same normal form.
-/

namespace CacheService

namespace Key

/-- Both ways to normalise a key agree. -/
theorem renormal_key (k : Key) : k.renormal.key = k.normal := by
  cases k with
  | text s =>
    by_cases h : Text.smallLettersOf s.toList = s.toList
    · -- a text that seems to be in lower case is kept as it is
      have hlower : Text.lowerCase s = s := by
        rw [Text.lowerCase, Text.lowerFrom_of_smallLettersOf h, String.ofList_toList]
      simp only [renormal, normal, h, if_true, Renormal.key, hlower]
    · simp only [renormal, normal, h, if_false, Renormal.key]
  | null => rfl
  | flag b => rfl
  | integer i => rfl

end Key

namespace KeyTable

variable {α : Type}

theorem get?_empty (k : Key) : (empty : KeyTable α).get? k = none := by
  simp [get?, empty]

/-- Keys with one normal form share one place. -/
theorem get?_insert (t : KeyTable α) (e : Entry α) (k : Key) :
    (t.insert e).get? k = if e.key.normal = k.normal then some e.value else t.get? k := by
  unfold get? insert
  rw [Key.renormal_key, Std.ExtTreeMap.getElem?_insert]
  simp only [Std.LawfulEqOrd.compare_eq_iff_eq]

/-- The value of the last of the entries whose key has the same normal form. -/
def lastValue? (es : List (Entry α)) (k : Key) : Option α :=
  (es.reverse.find? fun e => e.key.normal = k.normal).map Entry.value

/-- The later entries go before the earlier ones. -/
theorem lastValue?_append (es es' : List (Entry α)) (k : Key) :
    lastValue? (es ++ es') k = (lastValue? es' k).or (lastValue? es k) := by
  unfold lastValue?
  rw [List.reverse_append, List.find?_append, Option.map_or]

/-- The last entry under a key wins, and other keys keep their values. -/
theorem get?_insertMany (t : KeyTable α) (es : List (Entry α)) (k : Key) :
    (t.insertMany es).get? k = (lastValue? es k).or (t.get? k) := by
  induction es generalizing t with
  | nil => rfl
  | cons e rest ih =>
    have hfirst : t.insertMany (e :: rest) = (t.insert e).insertMany rest := rfl
    have hsplit : lastValue? (e :: rest) k = (lastValue? rest k).or (lastValue? [e] k) :=
      lastValue?_append [e] rest k
    rw [hfirst, ih, hsplit, get?_insert, Option.or_assoc]
    congr 1
    by_cases hk : e.key.normal = k.normal <;> simp [lastValue?, hk]

end KeyTable
end CacheService
