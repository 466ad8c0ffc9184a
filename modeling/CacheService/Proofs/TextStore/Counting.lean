import CacheService.TextStore.Counts
import Mathlib.Algebra.BigOperators.Group.List.Lemmas
import Mathlib.Algebra.Ring.Nat
import Mathlib.Data.List.Count

/-!
# What counters say about reads

A read is counted twice, under its type and among all reads. `Stats.Counts` says which reads the two
sets of counters stand for; they are the same but for reads that are just being counted. Counters
that stand for the same reads are exact (`Stats.Counts.exact`): their totals are the sums over the
types, and exactly the types of these reads are listed.

A read is given by its type and by whether it found a text.
-/

namespace CacheService
namespace Stats

def recordType (s : Stats) (textType : String) (found : Bool) : Stats :=
  { s with perType := s.perType.insert textType ((s.counts textType).record found) }

def recordTotal (s : Stats) (found : Bool) : Stats :=
  { s with total := s.total.record found }

/-- Both counts together are the count of a read. -/
theorem recordTotal_recordType (s : Stats) (textType : String) (found : Bool) :
    (s.recordType textType found).recordTotal found = s.record textType found :=
  rfl

theorem counts_recordType (s : Stats) (t t' : String) (found : Bool) :
    (s.recordType t found).counts t' =
      if t = t' then (s.counts t).record found else s.counts t' := by
  unfold recordType Stats.counts
  simp only [Std.ExtTreeMap.getD_insert, Std.LawfulEqOrd.compare_eq_iff_eq]

/-! ## Sums over types -/

/-- A read is counted under one of different types. -/
theorem sum_count_singleton {types : List String} (htypes : types.Nodup) (r : String × Bool)
    (found : Bool) :
    (types.map fun t => if r = (t, found) then 1 else 0).sum =
      if r.1 ∈ types ∧ r.2 = found then 1 else 0 := by
  induction types with
  | nil => simp
  | cons t rest ih =>
    obtain ⟨ht, hrest⟩ := List.nodup_cons.1 htypes
    rw [List.map_cons, List.sum_cons, ih hrest]
    by_cases hr : r.1 = t
    · -- the type is not among the rest
      subst hr
      simp [Prod.ext_iff, ht]
    · simp [Prod.ext_iff, hr]

/-- The reads of different types add up to all reads, if all are of these types. -/
theorem sum_count {types : List String} (htypes : types.Nodup) {reads : List (String × Bool)}
    (hall : ∀ r ∈ reads, r.1 ∈ types) (found : Bool) :
    (types.map fun t => reads.count (t, found)).sum = reads.countP fun r => r.2 == found := by
  induction reads with
  | nil => simp
  | cons r rest ih =>
    obtain ⟨hr, hrest⟩ := List.forall_mem_cons.1 hall
    -- one read more is one more in the sum, under its own type
    simp only [List.count_cons, List.countP_cons, beq_iff_eq, List.sum_map_add, ih hrest,
      sum_count_singleton htypes, hr, true_and]

/-- A type is listed with its counts. -/
theorem mem_snapshot_iff (s : Stats) (t : String) (n : HitCounts) :
    (t, n) ∈ s.snapshot ↔ n = s.counts t ∧ t ∈ s.perType := by
  rw [snapshot, Std.ExtTreeMap.mem_toList_iff_getElem?_eq_some, Stats.counts,
    Std.ExtTreeMap.getD_eq_getD_getElem?, Std.ExtTreeMap.mem_iff_isSome_getElem?]
  cases s.perType[t]? <;> simp [eq_comm]

/-- A sum over the snapshot is one over the types. -/
theorem sum_snapshot (s : Stats) (f : HitCounts → Nat) :
    (s.snapshot.map fun p => f p.2).sum = (s.perType.keys.map fun t => f (s.counts t)).sum := by
  rw [← Std.ExtTreeMap.map_fst_toList_eq_keys, List.map_map]
  congr 1
  apply List.map_congr_left
  rintro ⟨t, n⟩ hmem
  obtain ⟨rfl, -⟩ := (mem_snapshot_iff s t n).1 hmem
  rfl

/-! ## Counters and reads -/

/-- The counters of types stand for some reads, and the totals for others. -/
structure Counts (s : Stats) (typed added : List (String × Bool)) : Prop where
  counts : ∀ t, s.counts t = ⟨typed.count (t, true), typed.count (t, false)⟩
  listed : ∀ t, t ∈ s.perType ↔ ∃ found, (t, found) ∈ typed
  total : s.total = ⟨added.countP fun r => r.2 == true, added.countP fun r => r.2 == false⟩

/-- The counters stand for some reads: each type has as many hits as reads of it found a text and as
many misses as did not, the totals are the numbers of all these reads and the sums over the types,
and exactly the types of which there are reads are listed. -/
structure Exact (s : Stats) (reads : List (String × Bool)) : Prop where
  counts : ∀ t, s.counts t = ⟨reads.count (t, true), reads.count (t, false)⟩
  total : s.total = ⟨reads.countP fun r => r.2 == true, reads.countP fun r => r.2 == false⟩
  sums : s.total =
    ⟨(s.snapshot.map fun p => p.2.hits).sum, (s.snapshot.map fun p => p.2.misses).sum⟩
  listed : ∀ t n, (t, n) ∈ s.snapshot ↔ n = s.counts t ∧ ∃ found, (t, found) ∈ reads

variable {s : Stats} {typed added reads : List (String × Bool)}

namespace Counts

theorem start : Counts {} [] [] where
  counts t := by simp [Stats.counts]
  listed t := by simp
  total := rfl

/-- In which order the reads are named makes no difference. -/
theorem perm (h : s.Counts typed added) {typed' added' : List (String × Bool)}
    (htyped : typed'.Perm typed) (hadded : added'.Perm added) : s.Counts typed' added' where
  counts t := by rw [h.counts, htyped.count_eq, htyped.count_eq]
  listed t := by simp only [h.listed, htyped.mem_iff]
  total := by rw [h.total, hadded.countP_eq, hadded.countP_eq]

/-- A read that is counted under its type is one more among the first reads. -/
theorem recordType (h : s.Counts typed added) (t : String) (found : Bool) :
    (s.recordType t found).Counts ((t, found) :: typed) added where
  counts t' := by
    rw [counts_recordType, h.counts, h.counts]
    by_cases ht : t = t'
    · subst ht
      cases found <;> simp [HitCounts.record]
    · simp [ht]
  listed t' := by
    have hmem : t' ∈ (s.recordType t found).perType ↔ t = t' ∨ t' ∈ s.perType := by
      simp [Stats.recordType, Std.ExtTreeMap.mem_insert]
    -- the type is listed from its first read on, whatever that has found
    rw [hmem, h.listed]
    simp only [List.mem_cons, Prod.mk.injEq, exists_or, eq_comm (a := t)]
    simp
  total := h.total

/-- A read that is counted in the totals is one more among the others. -/
theorem recordTotal (h : s.Counts typed added) (t : String) (found : Bool) :
    (s.recordTotal found).Counts typed ((t, found) :: added) where
  counts := h.counts
  listed := h.listed
  total := by
    simp only [Stats.recordTotal, h.total]
    cases found <;> simp [HitCounts.record]

/-- A read that is counted under its type and among all. -/
theorem record (h : s.Counts reads reads) (t : String) (found : Bool) :
    (s.record t found).Counts ((t, found) :: reads) ((t, found) :: reads) := by
  rw [← recordTotal_recordType]
  exact (h.recordType t found).recordTotal t found

/-- Counters of types and totals that stand for the same reads are exact. -/
theorem exact (h : s.Counts reads reads) : s.Exact reads where
  counts := h.counts
  total := h.total
  sums := by
    have hkeys : ∀ r ∈ reads, r.1 ∈ s.perType.keys := by
      rintro ⟨t, found⟩ hr
      exact Std.ExtTreeMap.mem_keys.2 ((h.listed t).2 ⟨found, hr⟩)
    have hsum := sum_count Std.ExtTreeMap.nodup_keys hkeys
    rw [sum_snapshot s HitCounts.hits, sum_snapshot s HitCounts.misses, h.total]
    simp only [h.counts, hsum]
  listed t n := by rw [mem_snapshot_iff, h.listed]

end Counts
end Stats
end CacheService
