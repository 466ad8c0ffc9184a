import CacheService.Lookup.Columns
import CacheService.Proofs.Lookup.FiniteMap
import CacheService.Proofs.Lookup.Selection
import Mathlib.Data.List.DropRight
import Mathlib.Data.List.Sublists

/-!
# Runs of rows whose keys are spelled in several ways

Rows are grouped by their keys as they are spelled, and entries are stored by their keys in normal
form. So where the rows of one key come one after the other in several spellings, each spelling
makes an entry of its own, and only that of the last one is left (`load_keeps_last_spelling`).

The rows are followed run by run. `Spelled` says what the runs that are left make, and a run in
front adds its entry below that of the same key (`Spelled.run`).
-/

namespace CacheService
namespace Yield

open Interpreter

variable {α : Type}

/-- The rows whose keys have the same normal form as the key. -/
def rowsUnder (rows : List (Key × Row)) (key : Key) : List (Key × Row) :=
  rows.filter fun p => p.1.normal = key.normal

/-- The rows at the end whose keys are spelled as that of the last one. -/
def lastSpelling (rows : List (Key × Row)) : List (Key × Row) :=
  match rows.getLast? with
  | none => []
  | some last => rows.rtakeWhile fun p => p.1 = last.1

/-- What is left of the rows under a key, if there are any: what those of the last spelling are
combined to. -/
def valueUnder (value : List Row → α) (rows : List (Key × Row)) (key : Key) : Option α :=
  if rowsUnder rows key = [] then none
  else some (value ((lastSpelling (rowsUnder rows key)).map Prod.snd))

/-- An interpreter that never fails: every row has a key, and rows with one key are combined to an
entry under it. -/
structure Combines (groupKey : Row → Outcome Key) (combine : List Row → Outcome (Option (Entry α)))
    (value : List Row → α) (rows : List (Key × Row)) : Prop where
  keys : ∀ p ∈ rows, groupKey p.2 = .ok p.1
  entry : ∀ (key : Key) (run : List Row), run ≠ [] → (∀ row ∈ run, groupKey row = .ok key) →
    combine run = .ok (some ⟨key, value run⟩)

/-! ## The last spelling -/

/-- All rows are of the last spelling just if they all have one key. -/
theorem lastSpelling_eq_self_iff (rows : List (Key × Row)) :
    lastSpelling rows = rows ↔ ∀ p ∈ rows, ∀ q ∈ rows, p.1 = q.1 := by
  unfold lastSpelling
  cases hlast : rows.getLast? with
  | none =>
    rw [List.getLast?_eq_none_iff.1 hlast]
    simp
  | some last =>
    have hmem : last ∈ rows := List.mem_of_getLast? hlast
    simp only [List.rtakeWhile_eq_self_iff, decide_eq_true_eq]
    constructor
    · intro h p hp q hq
      rw [h p hp, h q hq]
    · intro h p hp
      exact h p hp last hmem

/-- Rows of another spelling than the first of those after them do not belong to the last one. -/
theorem lastSpelling_append {key : Key} {run rest : List (Key × Row)}
    (hrun : ∀ p ∈ run, p.1 = key) (hne : rest ≠ []) (hrest : ∀ q ∈ rest.head?, q.1 ≠ key) :
    lastSpelling (run ++ rest) = lastSpelling rest := by
  obtain ⟨last, hlast⟩ : ∃ last, rest.getLast? = some last :=
    ⟨_, List.getLast?_eq_some_getLast hne⟩
  have hboth : (run ++ rest).getLast? = some last := by
    rw [List.getLast?_append, hlast, Option.some_or]
  simp only [lastSpelling, hboth, hlast, List.rtakeWhile, List.reverse_append,
    List.takeWhile_append, List.length_reverse]
  split
  · -- then all the rest has the last spelling, which therefore is not that of the run
    rename_i hall
    have hwhole : rest.reverse.takeWhile (fun p => p.1 = last.1) = rest.reverse :=
      (List.takeWhile_sublist _).eq_of_length (by rw [hall, List.length_reverse])
    have hother : last.1 ≠ key := by
      obtain ⟨q, more, rfl⟩ := List.exists_cons_of_ne_nil hne
      have hq : q.1 = last.1 := by
        have hmem : q ∈ (q :: more).reverse := List.mem_reverse.2 List.mem_cons_self
        rw [← hwhole] at hmem
        simpa using List.mem_takeWhile_imp hmem
      rw [← hq]
      exact hrest q rfl
    have hnone : run.reverse.takeWhile (fun p => p.1 = last.1) = [] := by
      cases hreverse : run.reverse with
      | nil => rfl
      | cons p more =>
        have hmem : p ∈ run := List.mem_reverse.1 (hreverse ▸ List.mem_cons_self)
        rw [List.takeWhile_cons_of_neg]
        simpa [hrun p hmem] using hother.symm
    rw [hnone, List.append_nil, hwhole]
  · rfl

/-! ## Run by run -/

/-- What rows make: as many entries as there are runs, under the keys of the rows, and the last one
under each key is that of the last spelling. -/
structure Spelled (value : List Row → α) (rows : List (Key × Row)) (y : Yield α) : Prop where
  failure : y.failure = none
  length : y.entries.length = (rows.splitBy sameKey).length
  keys : ∀ key, key ∈ y.entries.map (fun e => e.key.normal) ↔ key ∈ rows.map fun p => p.1.normal
  values : ∀ key, KeyTable.lastValue? y.entries key = valueUnder value rows key

/-- A run under another key is not looked at. -/
theorem valueUnder_of_other {value : List Row → α} {key k : Key} {run rest : List (Key × Row)}
    (hrun : ∀ p ∈ run, p.1 = key) (hk : key.normal ≠ k.normal) :
    valueUnder value (run ++ rest) k = valueUnder value rest k := by
  have hnone : rowsUnder run k = [] := by
    rw [rowsUnder, List.filter_eq_nil_iff]
    intro p hp
    simpa [hrun p hp] using hk
  have happend : rowsUnder (run ++ rest) k = rowsUnder rest k := by
    rw [rowsUnder, List.filter_append, ← rowsUnder, hnone, List.nil_append, rowsUnder]
  rw [valueUnder, valueUnder, happend]

/-- A run in front of the rest gives its key a value only if the rest does not. -/
theorem valueUnder_of_key {value : List Row → α} {p : Key × Row} {k : Key}
    {run rest : List (Key × Row)} (hconsecutive : Consecutive ((p :: run) ++ rest))
    (hrun : ∀ q ∈ p :: run, q.1 = p.1) (hrest : ∀ q ∈ rest.head?, q.1 ≠ p.1)
    (hk : p.1.normal = k.normal) :
    valueUnder value ((p :: run) ++ rest) k =
      (valueUnder value rest k).or (some (value ((p :: run).map Prod.snd))) := by
  have hwhole : rowsUnder (p :: run) k = p :: run := by
    rw [rowsUnder, List.filter_eq_self]
    intro q hq
    simp [hrun q hq, hk]
  have happend : rowsUnder ((p :: run) ++ rest) k = (p :: run) ++ rowsUnder rest k := by
    rw [rowsUnder, List.filter_append, ← rowsUnder, hwhole, rowsUnder]
  by_cases hnone : rowsUnder rest k = []
  · -- no more rows have the key
    have hself : lastSpelling (p :: run) = p :: run := by
      rw [lastSpelling_eq_self_iff]
      intro a ha b hb
      rw [hrun a ha, hrun b hb]
    simp only [valueUnder, happend, hnone, List.append_nil, hself]
    rfl
  · -- they begin with another spelling, as the rest does
    have hother : ∀ q ∈ (rowsUnder rest k).head?, q.1 ≠ p.1 :=
      @head?_filter_ne p run rest (fun key => key = k.normal) hconsecutive hrest (by simpa using hk)
    have hlast := lastSpelling_append hrun hnone hother
    simp only [valueUnder, happend, hlast, hnone, if_false, Option.some_or]
    rfl

/-- A run in front of the rest adds the entry of its key. -/
theorem Spelled.run {value : List Row → α} {p : Key × Row} {run rest : List (Key × Row)}
    {y : Yield α} (h : Spelled value rest y) (hconsecutive : Consecutive ((p :: run) ++ rest))
    (hrun : ∀ q ∈ p :: run, q.1 = p.1) (hrest : ∀ q ∈ rest.head?, q.1 ≠ p.1) :
    Spelled value ((p :: run) ++ rest)
      ⟨⟨p.1, value ((p :: run).map Prod.snd)⟩ :: y.entries, y.failure⟩ where
  failure := h.failure
  length := by
    rw [splitBy_run (List.cons_ne_nil p run) hrun hrest, List.length_cons, List.length_cons,
      h.length]
  keys := by
    intro key
    have hfirst : key ∈ (p :: run).map (fun q => q.1.normal) ↔ key = p.1.normal := by
      constructor
      · intro hmem
        obtain ⟨q, hq, rfl⟩ := List.mem_map.1 hmem
        rw [hrun q hq]
      · rintro rfl
        exact List.mem_cons_self
    rw [List.map_append, List.mem_append, hfirst, List.map_cons, List.mem_cons, h.keys]
  values := by
    intro key
    have hsplit := KeyTable.lastValue?_append
      [⟨p.1, value ((p :: run).map Prod.snd)⟩] y.entries key
    rw [List.singleton_append] at hsplit
    rw [hsplit, h.values]
    by_cases hk : p.1.normal = key.normal
    · rw [valueUnder_of_key hconsecutive hrun hrest hk]
      simp [KeyTable.lastValue?, hk]
    · rw [valueUnder_of_other hrun hk]
      simp [KeyTable.lastValue?, hk]

/-- Runs in order make, under each key, what the rows of its last spelling are combined to. -/
theorem spelled_ofRuns {name : String} {groupKey : Row → Outcome Key}
    {combine : List Row → Outcome (Option (Entry α))} {value : List Row → α}
    {rows : List (Key × Row)} (hcombines : Combines groupKey combine value rows)
    (hconsecutive : Consecutive rows) :
    Spelled value rows (ofRuns name combine rows none none) := by
  -- the induction is on the number of rows, and takes a whole run away each time
  induction hlength : rows.length using Nat.strong_induction_on generalizing rows with
  | _ n ih =>
    cases rows with
    | nil =>
      refine ⟨rfl, rfl, fun _ => Iff.rfl, ?_⟩
      intro key
      rfl
    | cons p more =>
      obtain ⟨run, rest, hsplit, hrun, hrest⟩ := exists_run p more
      rw [hsplit] at hcombines hconsecutive hlength ⊢
      have hne : p :: run ≠ [] := List.cons_ne_nil p run
      have hshort : rest.length < n := by
        rw [← hlength, List.length_append, List.length_cons]
        omega
      have hkeys : ∀ q ∈ rest, groupKey q.2 = .ok q.1 := by
        intro q hq
        exact hcombines.keys q (List.mem_append_right _ hq)
      have hspelled : Spelled value rest (ofRuns name combine rest none none) :=
        ih rest.length hshort ⟨hkeys, hcombines.entry⟩
          (fun a b c hsub => hconsecutive a b c (hsub.trans (List.sublist_append_right _ _))) rfl
      have hentry : combine ((p :: run).map Prod.snd) =
          .ok (some ⟨p.1, value ((p :: run).map Prod.snd)⟩) := by
        apply hcombines.entry
        · simp
        · intro row hrow
          obtain ⟨q, hq, rfl⟩ := List.mem_map.1 hrow
          rw [hcombines.keys q (List.mem_append_left _ hq), hrun q hq]
      rw [ofRuns_run hne hrun hrest, hentry, andThen]
      exact hspelled.run hconsecutive hrun hrest

/-! ## Loads of several spellings -/

section Loads

variable (name : String) {groupKey : Row → Outcome Key}
  {combine : List Row → Outcome (Option (Entry α))} {value : List Row → α}
  {rows : List (Key × Row)} {c : Cursor}

/-- A cursor over the rows yields what the runs make. -/
theorem spelled_yield (hcombines : Combines groupKey combine value rows)
    (hconsecutive : Consecutive rows) (hc : c.Reliable) (hrows : c.rows = rows.map Prod.snd) :
    Spelled value rows ((perRun name groupKey combine).yield c) := by
  have hend : c.afterEnd = none := hc _
  have hyield : (perRun name groupKey combine).yield c = ofRuns name combine rows none none := by
    simp only [yield, hc.delivered, hrows, keyed_rows hcombines.keys, hend]
  rw [hyield]
  exact spelled_ofRuns hcombines hconsecutive

/-- What is stored under a key is what is left of its rows. -/
theorem get?_load_of_spelled (hcombines : Combines groupKey combine value rows)
    (hconsecutive : Consecutive rows) (hc : c.Reliable) (hrows : c.rows = rows.map Prod.snd)
    (key : Key) :
    (KeyTable.empty.load (.perRun name groupKey combine) c).2.2.get? key =
      valueUnder value rows key := by
  have hspelled := spelled_yield name hcombines hconsecutive hc hrows
  have htable := (load_spec KeyTable.empty (perRun name groupKey combine) c).1
  rw [htable, KeyTable.get?_empty_insertMany, hspelled.values]

/-- Rows whose keys in normal form are consecutive leave one entry for each of these keys, and its
value is what the rows at the end were combined to whose keys are spelled as the last one. So no row
of a key is dropped if and only if all rows of the key have one spelling. -/
theorem load_keeps_last_spelling (hcombines : Combines groupKey combine value rows)
    (hconsecutive : Consecutive rows) (hc : c.Reliable) (hrows : c.rows = rows.map Prod.snd) :
    (KeyTable.empty.load (.perRun name groupKey combine) c).1 =
        (match c.closing with
        | some e => .error e
        | none => .ok (rows.splitBy sameKey).length) ∧
      (KeyTable.empty.load (.perRun name groupKey combine) c).2.2.size =
        (rows.map fun p => p.1.normal).dedup.length ∧
      (∀ key, (KeyTable.empty.load (.perRun name groupKey combine) c).2.2.get? key =
        valueUnder value rows key) ∧
      ∀ key, lastSpelling (rowsUnder rows key) = rowsUnder rows key ↔
        ∀ p ∈ rowsUnder rows key, ∀ q ∈ rowsUnder rows key, p.1 = q.1 := by
  have hspelled := spelled_yield name hcombines hconsecutive hc hrows
  obtain ⟨htable, houtcome, -⟩ := load_spec KeyTable.empty (perRun name groupKey combine) c
  refine ⟨?_, ?_, get?_load_of_spelled name hcombines hconsecutive hc hrows,
    fun key => lastSpelling_eq_self_iff _⟩
  · rw [houtcome, outcome, hspelled.failure, hspelled.length]
    rfl
  · rw [htable, KeyTable.size_insertMany]
    apply List.Perm.length_eq
    rw [List.perm_ext_iff_of_nodup (List.nodup_dedup _) (List.nodup_dedup _)]
    intro key
    rw [List.mem_dedup, List.mem_dedup, hspelled.keys]

end Loads

/-! ## Rows that are counted -/

def countOf (run : List Row) : Cached :=
  .integer (Int64.ofNat run.length)

/-- Counting the rows under a key column never fails where the key can be read. -/
theorem combines_count (key : KeyColumn) (value : ValueColumn) {rows : List (Key × Row)}
    (hkeys : ∀ p ∈ rows, key.read p.2 = .ok p.1) :
    Combines key.read (Columns.entryOfRun { key, value } .count) countOf rows where
  keys := hkeys
  entry := by
    intro k run hne hrun
    cases run with
    | nil => exact absurd rfl hne
    | cons first more =>
      have hfirst := hrun first List.mem_cons_self
      simp only [Columns.entryOfRun, Columns.isSkipped, Columns.combined, Outcome.ok_bind, hfirst,
        Outcome.pure_eq, Bool.false_eq_true, if_false]
      rfl

def wordColumn : KeyColumn :=
  ⟨1, .text⟩

/-- Three words, the first two of which differ in case only. -/
def caseWords : List (Key × Row) :=
  [(.text "A", ⟨[.text "A"]⟩), (.text "a", ⟨[.text "a"]⟩), (.text "b", ⟨[.text "b"]⟩)]

def caseCount : List Row → Outcome (Option (Entry Cached)) :=
  Columns.entryOfRun { key := wordColumn, value := ⟨1, .text⟩ } .count

theorem combines_caseWords : Combines wordColumn.read caseCount countOf caseWords := by
  apply combines_count
  intro p hp
  simp only [caseWords, List.mem_cons, List.not_mem_nil, or_false] at hp
  rcases hp with rfl | rfl | rfl <;> rfl

theorem consecutive_caseWords : Consecutive caseWords := by
  intro a b c hsub
  have hall : ∀ l ∈ caseWords.sublists, ∀ a ∈ l.head?, ∀ b ∈ l[1]?, ∀ c ∈ l[2]?,
      a.1.normal = c.1.normal → b.1.normal = a.1.normal := by
    decide +kernel
  exact hall [a, b, c] (List.mem_sublists.2 hsub) a rfl b rfl c rfl

/-- Of three words, three runs are stored, and two entries are left. -/
theorem load_keeps_last_spelling_words :
    Combines wordColumn.read caseCount countOf caseWords ∧ Consecutive caseWords ∧
      (KeyTable.empty.load (.perRun "words" wordColumn.read caseCount)
        { rows := caseWords.map Prod.snd }).1 = .ok 3 ∧
      (KeyTable.empty.load (.perRun "words" wordColumn.read caseCount)
        { rows := caseWords.map Prod.snd }).2.2.size = 2 := by
  obtain ⟨houtcome, hsize, -⟩ := load_keeps_last_spelling "words"
    (c := { rows := caseWords.map Prod.snd }) combines_caseWords consecutive_caseWords
    (fun _ => rfl) rfl
  have hruns : (caseWords.splitBy sameKey).length = 3 := by decide +kernel
  have hkeys : (caseWords.map fun p => p.1.normal).dedup.length = 2 := by decide +kernel
  refine ⟨combines_caseWords, consecutive_caseWords, ?_, hsize.trans hkeys⟩
  rw [houtcome, hruns]

/-- Of two rows whose keys differ in case only, one is counted. -/
theorem not_all_spellings_combined :
    Combines wordColumn.read caseCount countOf caseWords ∧ Consecutive caseWords ∧
      ¬ ∀ key, rowsUnder caseWords key ≠ [] →
        (KeyTable.empty.load (.perRun "words" wordColumn.read caseCount)
          { rows := caseWords.map Prod.snd }).2.2.get? key =
            some (countOf ((rowsUnder caseWords key).map Prod.snd)) := by
  refine ⟨combines_caseWords, consecutive_caseWords, ?_⟩
  intro hall
  have hloaded := get?_load_of_spelled "words"
    (c := { rows := caseWords.map Prod.snd }) combines_caseWords consecutive_caseWords
    (fun _ => rfl) rfl (.text "a")
  have hone : valueUnder countOf caseWords (.text "a") = some (.integer 1) := by
    decide +kernel
  have htwo : countOf ((rowsUnder caseWords (.text "a")).map Prod.snd) = .integer 2 := by
    decide +kernel
  have hclaimed := hall (.text "a") (by decide +kernel)
  rw [hloaded, hone, htwo] at hclaimed
  exact absurd hclaimed (by decide)

end Yield
end CacheService
