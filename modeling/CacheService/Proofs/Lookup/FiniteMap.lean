import CacheService.Proofs.Lookup.KeyTable
import Mathlib.Data.List.Dedup
import Mathlib.Data.List.Induction

/-!
# Tables are finite maps of keys in normal form

Whatever was stored and cleared, a table answers by what was stored since the last clearing, under
any spelling of a key, and lists every key once, in normal form and in order (`table_eq_stored`).

Keys are stored by `Key.normal` and found by `Key.renormal`. Both agree, and a key in normal form is
its own normal form, so that a key from a snapshot finds its value again.
-/

namespace CacheService

namespace Key

/-! ## Normal forms and order -/

@[simp] theorem normal_normal (k : Key) : k.normal.normal = k.normal := by
  cases k with
  | text s => simp only [normal, Text.lowerCase_lowerCase]
  | null => rfl
  | flag b => rfl
  | integer i => rfl

/-- Null comes first, then false, true, the whole numbers by size, and texts by code points. -/
def Precedes : Key → Key → Prop
  | null, null => False
  | null, _ => True
  | flag _, null => False
  | flag a, flag b => a = false ∧ b = true
  | flag _, _ => True
  | integer i, integer j => i < j
  | integer _, text _ => True
  | integer _, _ => False
  | text s, text s' => s.toList.map Char.toNat < s'.toList.map Char.toNat
  | text _, _ => False

/-- Texts compare by code points as they do by characters. -/
theorem map_toNat_lt_iff (cs ds : List Char) :
    cs.map Char.toNat < ds.map Char.toNat ↔ cs < ds := by
  induction cs generalizing ds with
  | nil => cases ds <;> simp
  | cons c cs ih =>
    cases ds with
    | nil => simp
    | cons d ds =>
      have hlt : c.toNat < d.toNat ↔ c < d := Iff.rfl
      have heq : c.toNat = d.toNat ↔ c = d := Char.toNat_inj
      simp only [List.map_cons, List.cons_lt_cons_iff, ih, hlt, heq]

/-- Comparing keys puts them in their order. -/
theorem compare_eq_lt_iff (a b : Key) : compare a b = .lt ↔ a.Precedes b := by
  have hcompare : compare a b = (compareOn rank a b).then
      ((compareOn number a b).then (compareOn characters a b)) := rfl
  have hstring : ∀ s s' : String, compare s s' = .lt ↔ s.toList < s'.toList :=
    fun s s' => (@compareOfLessAndEq_eq_lt String _ inferInstance _ _ s s').trans String.lt_iff
  rw [hcompare]
  simp only [compareOn, Ordering.then_eq_lt, Std.LawfulEqOrd.compare_eq_iff_eq,
    Nat.compare_eq_lt, Int.compare_eq_lt, hstring]
  cases a <;> cases b <;>
    simp [rank, number, characters, Precedes, map_toNat_lt_iff, Int64.lt_iff_toInt_lt]
  case flag.flag x y => cases x <;> cases y <;> decide

end Key

namespace KeyTable

variable {α : Type}

/-! ## Histories -/

inductive Change (α : Type) where
  | insert (e : Entry α)
  | clear

def change (t : KeyTable α) : Change α → KeyTable α
  | .insert e => t.insert e
  | .clear => empty

def after (changes : List (Change α)) : KeyTable α :=
  changes.foldl change empty

/-- The entries that were stored since the last clearing, in order. -/
def stored (changes : List (Change α)) : List (Entry α) :=
  changes.foldl (fun es change =>
    match change with
    | .insert e => es ++ [e]
    | .clear => []) []

/-- Only what was stored since the last clearing matters. -/
theorem after_eq_insertMany (changes : List (Change α)) :
    after changes = empty.insertMany (stored changes) := by
  induction changes using List.reverseRecOn with
  | nil => rfl
  | append_singleton front change ih =>
    have hafter : after (front ++ [change]) = (after front).change change := by
      rw [after, List.foldl_append]
      rfl
    cases change with
    | clear =>
      have hstored : stored (front ++ [.clear]) = [] := by
        rw [stored, List.foldl_append]
        rfl
      rw [hafter, hstored]
      rfl
    | insert e =>
      have hstored : stored (front ++ [.insert e]) = stored front ++ [e] := by
        rw [stored, List.foldl_append]
        rfl
      calc
        after (front ++ [.insert e]) = (after front).insert e := hafter
        _ = (empty.insertMany (stored front)).insert e := by rw [ih]
        _ = empty.insertMany (stored (front ++ [.insert e])) := by
          rw [hstored, insertMany, insertMany, List.foldl_append]
          rfl

/-! ## Entries -/

/-- Under a key, the last of the stored entries counts, or else what the table had before. -/
theorem getElem?_insertMany (t : KeyTable α) (es : List (Entry α)) (k : Key) :
    (t.insertMany es).entries[k]? =
      ((es.reverse.find? fun e => e.key.normal = k).map Entry.value).or t.entries[k]? := by
  induction es using List.reverseRecOn with
  | nil => rfl
  | append_singleton front e ih =>
    have hlast : t.insertMany (front ++ [e]) = (t.insertMany front).insert e := by
      rw [insertMany, List.foldl_append]
      rfl
    rw [hlast, insert, Std.ExtTreeMap.getElem?_insert, List.reverse_append, List.reverse_singleton,
      List.singleton_append, List.find?_cons, ih]
    simp only [Std.LawfulEqOrd.compare_eq_iff_eq]
    by_cases hk : e.key.normal = k <;> simp [hk]

variable (es : List (Entry α))

theorem get?_empty_insertMany (k : Key) : (empty.insertMany es).get? k = lastValue? es k := by
  rw [get?_insertMany, get?_empty, Option.or_none]

/-- An entry of a table is a key in normal form that was stored, and the last value under it. -/
theorem getElem?_insertMany_eq_some_iff (k : Key) (v : α) :
    (empty.insertMany es).entries[k]? = some v ↔
      k ∈ es.map (fun e => e.key.normal) ∧ lastValue? es k = some v := by
  have hempty : (empty : KeyTable α).entries[k]? = none := by simp [empty]
  rw [getElem?_insertMany, hempty, Option.or_none]
  constructor
  · intro h
    obtain ⟨e, hfind, hv⟩ := Option.map_eq_some_iff.1 h
    have hkey : e.key.normal = k := by simpa using List.find?_some hfind
    have hmem : e ∈ es := List.mem_reverse.1 (List.mem_of_find?_eq_some hfind)
    -- the key is in normal form, so it is found under itself
    have hnormal : k.normal = k := by rw [← hkey, Key.normal_normal]
    refine ⟨List.mem_map.2 ⟨e, hmem, hkey⟩, ?_⟩
    rw [lastValue?, hnormal, hfind, Option.map_some, hv]
  · rintro ⟨hmem, hv⟩
    obtain ⟨e, -, hkey⟩ := List.mem_map.1 hmem
    have hnormal : k.normal = k := by rw [← hkey, Key.normal_normal]
    rwa [lastValue?, hnormal] at hv

variable {es} in
/-- Every key of a stored entry has a last value. -/
theorem isSome_lastValue? {k : Key} (h : k ∈ es.map fun e => e.key.normal) :
    (lastValue? es k).isSome = true := by
  obtain ⟨e, hmem, hkey⟩ := List.mem_map.1 h
  have hnormal : k.normal = k := by rw [← hkey, Key.normal_normal]
  rw [lastValue?, Option.isSome_map, List.find?_isSome]
  exact ⟨e, List.mem_reverse.2 hmem, by simp [hkey, hnormal]⟩

/-- The keys of a table are the normal forms of the keys that were stored. -/
theorem mem_keys_insertMany (k : Key) :
    k ∈ (empty.insertMany es).entries.keys ↔ k ∈ es.map fun e => e.key.normal := by
  rw [Std.ExtTreeMap.mem_keys, Std.ExtTreeMap.mem_iff_isSome_getElem?, Option.isSome_iff_exists]
  constructor
  · rintro ⟨v, hv⟩
    exact ((getElem?_insertMany_eq_some_iff es k v).1 hv).1
  · intro hmem
    obtain ⟨v, hv⟩ := Option.isSome_iff_exists.1 (isSome_lastValue? hmem)
    exact ⟨v, (getElem?_insertMany_eq_some_iff es k v).2 ⟨hmem, hv⟩⟩

/-- There are as many entries as there are different normal forms among the keys. -/
theorem size_insertMany :
    (empty.insertMany es).size = (es.map fun e => e.key.normal).dedup.length := by
  have hperm : (empty.insertMany es).entries.keys.Perm (es.map fun e => e.key.normal).dedup := by
    rw [List.perm_ext_iff_of_nodup Std.ExtTreeMap.nodup_keys (List.nodup_dedup _)]
    intro k
    rw [mem_keys_insertMany, List.mem_dedup]
  rw [size, ← Std.ExtTreeMap.length_keys, hperm.length_eq]

/-! ## Tables as finite maps -/

/-- After any changes, a table is the finite map of what was stored since the last clearing. A key
is found under all its spellings with the value that was stored last, and a new entry puts out that
value. The size is the number of different keys in normal form; the snapshot lists each of them
once, in strictly ascending order, with the value under which the key itself is found again. -/
theorem table_eq_stored (changes : List (Change α)) :
    (∀ key, (after changes).get? key = lastValue? (stored changes) key ∧
      (after changes).contains key = (lastValue? (stored changes) key).isSome) ∧
    (∀ e : Entry α, (after changes).replaced? e = lastValue? (stored changes) e.key) ∧
    (after changes).size = ((stored changes).map fun e => e.key.normal).dedup.length ∧
    (after changes).snapshot.Pairwise (fun a b => a.1.Precedes b.1) ∧
    (∀ key value, (key, value) ∈ (after changes).snapshot ↔
      key ∈ (stored changes).map (fun e => e.key.normal) ∧
        lastValue? (stored changes) key = some value) ∧
    (∀ p ∈ (after changes).snapshot,
      p.1.normal = p.1 ∧ (after changes).get? p.1 = some p.2) := by
  rw [after_eq_insertMany]
  generalize stored changes = es
  have hentries : ∀ key value, (key, value) ∈ (empty.insertMany es).snapshot ↔
      key ∈ es.map (fun e => e.key.normal) ∧ lastValue? es key = some value := by
    intro key value
    rw [snapshot, Std.ExtTreeMap.mem_toList_iff_getElem?_eq_some, getElem?_insertMany_eq_some_iff]
  refine ⟨?_, ?_, size_insertMany es, ?_, hentries, ?_⟩
  · intro key
    have hcontains : (empty.insertMany es).contains key =
        ((empty.insertMany es).get? key).isSome := Std.ExtTreeMap.contains_eq_isSome_getElem?
    exact ⟨get?_empty_insertMany es key, by rw [hcontains, get?_empty_insertMany]⟩
  · -- storing normalises the key in one way and reading in the other
    intro e
    have hreplaced : (empty.insertMany es).replaced? e = (empty.insertMany es).get? e.key := by
      rw [replaced?, get?, Key.renormal_key]
    rw [hreplaced, get?_empty_insertMany]
  · apply List.Pairwise.imp _ Std.ExtTreeMap.ordered_keys_toList
    intro a b h
    exact (Key.compare_eq_lt_iff a.1 b.1).1 h
  · rintro ⟨key, value⟩ hmem
    obtain ⟨hkey, hvalue⟩ := (hentries key value).1 hmem
    obtain ⟨e, -, hnormal⟩ := List.mem_map.1 hkey
    refine ⟨?_, by rw [get?_empty_insertMany, hvalue]⟩
    rw [← hnormal, Key.normal_normal]

end KeyTable
end CacheService
