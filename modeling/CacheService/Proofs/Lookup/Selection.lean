import CacheService.Proofs.Lookup.Yield
import CacheService.Proofs.Outcome
import Mathlib.Data.List.TakeWhile

/-!
# Loading some of the rows of a table

An interpreter that makes an entry of every row or run of a table makes, of the rows with chosen
keys, exactly the entries with these keys (`yield_rowsOf`). For runs it matters that rows with one
key in normal form are consecutive: leaving out other keys then neither cuts a run nor joins two.
-/

namespace CacheService

/-! ## Cursors that do not fail -/

/-- No read of the cursor fails. -/
def Cursor.Reliable (c : Cursor) : Prop :=
  ∀ read, c.failure read = none

/-- A cursor that does not fail delivers all its rows. -/
theorem Cursor.Reliable.delivered {c : Cursor} (h : c.Reliable) : c.delivered = (c.rows, none) := by
  have hfrom : ∀ reads rows, deliveredFrom c.failure reads rows = (rows, none) := by
    intro reads rows
    induction rows generalizing reads with
    | nil => rw [deliveredFrom, h]
    | cons row rest ih => simp [deliveredFrom, h (reads + 1), ih]
  exact hfrom c.reads c.rows

/-! ## Tables that an interpreter can read -/

namespace Interpreter

variable {α : Type}

/-- The key of a row in normal form, if it can be made. -/
def keyOf? (i : Interpreter α) (row : Row) : Option Key :=
  match i with
  | .perRow _ entry =>
    match entry row with
    | .ok (some e) => some e.key.normal
    | _ => none
  | .perRun _ groupKey _ => (groupKey row).toOption.map Key.normal

/-- The rows whose keys in normal form are chosen, in the order of the table. -/
def rowsOf (i : Interpreter α) (chosen : Key → Bool) (rows : List Row) : List Row :=
  rows.filter fun row => (i.keyOf? row).any chosen

/-- The entries that an interpreter makes of a table when nothing fails. -/
def entriesOf (i : Interpreter α) (rows : List Row) : List (Entry α) :=
  (i.yield { rows }).entries

/-- Keyed rows with one key in normal form come one after the other. -/
def Consecutive (rows : List (Key × Row)) : Prop :=
  ∀ a b c, [a, b, c].Sublist rows → a.1.normal = c.1.normal → b.1.normal = a.1.normal

/-- An interpreter makes an entry of every row or run of a table. The entry of a run has the key of
the run, and rows with one key are consecutive. -/
def Reads (i : Interpreter α) (rows : List Row) : Prop :=
  match i with
  | .perRow _ entry => ∀ row ∈ rows, ∃ e, entry row = .ok (some e)
  | .perRun _ groupKey combine =>
    ∃ keys : List (Key × Row), keys.map Prod.snd = rows ∧ (∀ p ∈ keys, groupKey p.2 = .ok p.1) ∧
      Consecutive keys ∧ ∀ run ∈ keys.splitBy sameKey, ∃ e,
        combine (run.map Prod.snd) = .ok (some e) ∧ ∀ p ∈ run, e.key.normal = p.1.normal

end Interpreter

/-- Every row of a table that an interpreter reads has a key. -/
theorem Interpreter.rowsOf_true {α : Type} {i : Interpreter α} {rows : List Row}
    (h : i.Reads rows) : i.rowsOf (fun _ => true) rows = rows := by
  rw [rowsOf, List.filter_eq_self]
  intro row hrow
  cases i with
  | perRow name entry =>
    obtain ⟨e, he⟩ := h row hrow
    simp [keyOf?, he]
  | perRun name groupKey combine =>
    obtain ⟨keys, rfl, hkeys, -⟩ := h
    obtain ⟨p, hp, rfl⟩ := List.mem_map.1 hrow
    simp [keyOf?, hkeys p hp]

/-! ## Rows of chosen keys -/

namespace Yield

open Interpreter

variable {α : Type} {name : String}

/-- The entries with chosen keys of what is made without a failure. -/
def choose (chosen : Key → Bool) (y : Yield α) : Yield α :=
  ⟨y.entries.filter fun e => chosen e.key.normal, none⟩

/-- Entries are chosen one by one. -/
theorem choose_cons (chosen : Key → Bool) (entry : Entry α) (y : Yield α) :
    choose chosen ⟨entry :: y.entries, y.failure⟩ =
      if chosen entry.key.normal then ⟨entry :: (choose chosen y).entries, none⟩
      else choose chosen y := by
  unfold choose
  rw [List.filter_cons]
  split <;> rfl

/-- Where each row makes an entry, those of the chosen rows are the chosen entries. -/
theorem perRow_rowsOf {entry : Row → Outcome (Option (Entry α))} {rows : List Row}
    (h : (perRow name entry).Reads rows) (chosen : Key → Bool) :
    ofAnswers name (((perRow name entry).rowsOf chosen rows).map entry) none =
      choose chosen (ofAnswers name (rows.map entry) none) := by
  induction rows with
  | nil => rfl
  | cons row rest ih =>
    obtain ⟨e, he⟩ := h row List.mem_cons_self
    have hrest := ih fun other hmem => h other (List.mem_cons_of_mem _ hmem)
    have hkey : (perRow name entry).keyOf? row = some e.key.normal := by
      simp only [keyOf?, he]
    have hrows : (perRow name entry).rowsOf chosen (row :: rest) =
        if chosen e.key.normal then row :: (perRow name entry).rowsOf chosen rest
        else (perRow name entry).rowsOf chosen rest := by
      rw [rowsOf, List.filter_cons, hkey, Option.any_some]
      rfl
    rw [List.map_cons, ofAnswers_cons, he, andThen, choose_cons, ← hrest, hrows]
    split
    · rw [List.map_cons, ofAnswers_cons, he, andThen, hrest]
      rfl
    · rfl

/-- A list that is not empty begins with a run of its first key. -/
theorem exists_run (p : Key × Row) (rest : List (Key × Row)) :
    ∃ run after, p :: rest = (p :: run) ++ after ∧ (∀ q ∈ p :: run, q.1 = p.1) ∧
      ∀ q ∈ after.head?, q.1 ≠ p.1 := by
  refine ⟨rest.takeWhile (sameKey p), rest.dropWhile (sameKey p), ?_, ?_, ?_⟩
  · rw [List.cons_append, List.takeWhile_append_dropWhile]
  · intro q hq
    rcases List.mem_cons.1 hq with rfl | hq
    · rfl
    · have hsame := List.mem_takeWhile_imp hq
      exact (by simpa [sameKey] using hsame : p.1 = q.1).symm
  · intro q hq
    have hother := List.head?_dropWhile_not (sameKey p) rest
    rw [Option.mem_def.1 hq] at hother
    have hother : ¬ p.1 = q.1 := by simpa [sameKey] using hother
    exact Ne.symm hother

/-- The first run is made before what comes after it. -/
theorem ofRuns_run {combine : List Row → Outcome (Option (Entry α))} {key : Key}
    {run rest : List (Key × Row)} (hne : run ≠ []) (hrun : ∀ p ∈ run, p.1 = key)
    (hrest : ∀ p ∈ rest.head?, p.1 ≠ key) :
    ofRuns name combine (run ++ rest) none none =
      andThen name (combine (run.map Prod.snd)) (ofRuns name combine rest none none) := by
  unfold ofRuns
  rw [completeRuns_run hne hrun hrest (.inr rfl), List.map_cons]
  simp only [ite_self, Option.or_none]
  rfl

/-- After keys were left out, another key still comes after a run that was not. -/
theorem head?_filter_ne {p : Key × Row} {run after : List (Key × Row)} {chosen : Key → Bool}
    (hconsecutive : Consecutive ((p :: run) ++ after)) (hafter : ∀ q ∈ after.head?, q.1 ≠ p.1)
    (hchosen : chosen p.1.normal = true) :
    ∀ q ∈ (after.filter fun q => chosen q.1.normal).head?, q.1 ≠ p.1 := by
  intro q hq hsame
  cases after with
  | nil => simp at hq
  | cons b more =>
    have hb : b.1 ≠ p.1 := hafter b rfl
    by_cases hbchosen : chosen b.1.normal = true
    · have : b = q := by simpa [List.filter_cons, hbchosen] using hq
      exact hb (this ▸ hsame)
    · -- then `b` stands between two rows with one key, so it has that key in normal form
      have hmem : q ∈ more := by
        have hhead : q ∈ (more.filter fun q => chosen q.1.normal).head? := by
          simpa [List.filter_cons, hbchosen] using hq
        exact (List.mem_filter.1 (List.mem_of_mem_head? hhead)).1
      have hsub : [p, b, q].Sublist ((p :: run) ++ b :: more) := by
        rw [List.cons_append, List.cons_sublist_cons]
        apply List.Sublist.trans _ (List.sublist_append_right run (b :: more))
        rw [List.cons_sublist_cons]
        exact List.singleton_sublist.2 hmem
      have hnormal := hconsecutive p b q hsub (by rw [hsame])
      rw [hnormal] at hbchosen
      exact hbchosen hchosen

/-- Leaving out keys leaves whole runs out and keeps the others apart. -/
theorem ofRuns_filter {combine : List Row → Outcome (Option (Entry α))} (chosen : Key → Bool)
    (keys : List (Key × Row)) (hconsecutive : Consecutive keys)
    (hruns : ∀ run ∈ keys.splitBy sameKey, ∃ e,
      combine (run.map Prod.snd) = .ok (some e) ∧ ∀ p ∈ run, e.key.normal = p.1.normal) :
    ofRuns name combine (keys.filter fun p => chosen p.1.normal) none none =
      choose chosen (ofRuns name combine keys none none) := by
  -- run by run, so the induction is on the number of rows
  induction hlength : keys.length using Nat.strong_induction_on generalizing keys with
  | _ n ih =>
    cases keys with
    | nil => rfl
    | cons p rest =>
      obtain ⟨run, after, hsplit, hrun, hafter⟩ := exists_run p rest
      rw [hsplit] at hconsecutive hruns hlength ⊢
      have hne : p :: run ≠ [] := List.cons_ne_nil p run
      rw [splitBy_run hne hrun hafter] at hruns
      obtain ⟨e, hcombine, hkey⟩ := hruns (p :: run) List.mem_cons_self
      have hnormal : e.key.normal = p.1.normal := hkey p List.mem_cons_self
      have hshort : after.length < n := by
        rw [← hlength, List.length_append, List.length_cons]
        omega
      have hrest := ih after.length hshort after
        (fun a b c hsub => hconsecutive a b c (hsub.trans (List.sublist_append_right _ _)))
        (fun run hmem => hruns run (List.mem_cons_of_mem _ hmem)) rfl
      rw [ofRuns_run hne hrun hafter, hcombine, andThen, choose_cons, ← hrest, hnormal,
        List.filter_append]
      by_cases hchosen : chosen p.1.normal = true
      · -- the whole run is chosen, and it stays apart from what is chosen after it
        have hwhole : (p :: run).filter (fun q => chosen q.1.normal) = p :: run := by
          rw [List.filter_eq_self]
          intro q hq
          rw [hrun q hq, hchosen]
        rw [if_pos hchosen, hwhole,
          ofRuns_run hne hrun (head?_filter_ne hconsecutive hafter hchosen), hcombine, andThen,
          hrest]
        rfl
      · -- no row of the run is chosen
        have hnone : (p :: run).filter (fun q => chosen q.1.normal) = [] := by
          rw [List.filter_eq_nil_iff]
          intro q hq
          rw [hrun q hq]
          exact hchosen
        rw [if_neg hchosen, hnone, List.nil_append]

/-- The rows of a table with their group keys. -/
theorem keyed_rows {groupKey : Row → Outcome Key} {keys : List (Key × Row)}
    (h : ∀ p ∈ keys, groupKey p.2 = .ok p.1) :
    keyed groupKey (keys.map Prod.snd, none) = (keys, none) := by
  induction keys with
  | nil => simp [keyed]
  | cons p rest ih =>
    have hrest := ih fun q hq => h q (List.mem_cons_of_mem _ hq)
    rw [List.map_cons, keyed, h p List.mem_cons_self]
    simp only [hrest]

/-- Where each run makes an entry, those of the chosen rows are the chosen entries. -/
theorem perRun_rowsOf {groupKey : Row → Outcome Key}
    {combine : List Row → Outcome (Option (Entry α))} {rows : List Row}
    (h : (perRun name groupKey combine).Reads rows) (chosen : Key → Bool) :
    ofRuns name combine
        (keyed groupKey ((perRun name groupKey combine).rowsOf chosen rows, none)).1
        (keyed groupKey ((perRun name groupKey combine).rowsOf chosen rows, none)).2 none =
      choose chosen (ofRuns name combine (keyed groupKey (rows, none)).1
        (keyed groupKey (rows, none)).2 none) := by
  obtain ⟨keys, rfl, hkeys, hconsecutive, hruns⟩ := h
  have hrows : (perRun name groupKey combine).rowsOf chosen (keys.map Prod.snd) =
      (keys.filter fun p => chosen p.1.normal).map Prod.snd := by
    rw [rowsOf, List.filter_map]
    congr 1
    apply List.filter_congr
    intro p hp
    simp [keyOf?, hkeys p hp]
  have hchosen : ∀ p ∈ keys.filter fun p => chosen p.1.normal, groupKey p.2 = .ok p.1 := by
    intro p hp
    exact hkeys p (List.mem_filter.1 hp).1
  rw [hrows, keyed_rows hchosen, keyed_rows hkeys]
  exact ofRuns_filter chosen keys hconsecutive hruns

/-- Of the rows with chosen keys, an interpreter makes the entries with these keys. -/
theorem yield_rowsOf {i : Interpreter α} {rows : List Row} (h : i.Reads rows)
    (chosen : Key → Bool) {c : Cursor} (hc : c.Reliable) (hrows : c.rows = i.rowsOf chosen rows) :
    i.yield c = ⟨(i.entriesOf rows).filter fun e => chosen e.key.normal, none⟩ := by
  have hall : Cursor.Reliable { rows } := fun _ => rfl
  cases i with
  | perRow name entry =>
    have hchoose := perRow_rowsOf h chosen
    simp only [entriesOf, yield, hc.delivered, hall.delivered, hrows]
    exact hchoose
  | perRun name groupKey combine =>
    have hchoose := perRun_rowsOf h chosen
    have hend : c.afterEnd = none := hc _
    simp only [entriesOf, yield, hc.delivered, hall.delivered, hrows, hend]
    exact hchoose

end Yield

end CacheService
