import CacheService.Lookup.Key
import Std.Data.ExtTreeMap

/-!
# The order of keys is lawful

Comparing keys is transitive, and only equal keys compare as equal. Tables sorted by key rely on it.
-/

namespace CacheService
namespace Key

/-- A key is fixed by its kind, its number and its characters. -/
theorem eq_of_parts {a b : Key} (hr : a.rank = b.rank) (hn : a.number = b.number)
    (hc : a.characters = b.characters) : a = b := by
  cases a <;> cases b <;> simp_all [rank, number, characters, Int64.toInt_inj]
  case flag.flag x y => cases x <;> cases y <;> simp_all

instance : Std.TransOrd Key :=
  inferInstanceAs (Std.TransCmp (compareLex (compareOn rank)
    (compareLex (compareOn number) (compareOn characters))))

instance : Std.LawfulEqOrd Key where
  eq_of_compare {a b} h := by
    have h' : (compareOn rank a b).then
        ((compareOn number a b).then (compareOn characters a b)) = .eq := h
    simp only [Ordering.then_eq_eq, compareOn, Std.LawfulEqOrd.compare_eq_iff_eq] at h'
    exact eq_of_parts h'.1 h'.2.1 h'.2.2

end Key
end CacheService
