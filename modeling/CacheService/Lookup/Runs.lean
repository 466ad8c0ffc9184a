import CacheService.Lookup.Interpreter
import CacheService.Row.Cursor

/-!
# Runs of rows

The rows of a cursor cut into runs: maximal stretches of consecutive rows with one group key. A run
ends where the first row of the next one has been read, so that row is kept for the next call. A
failure drops the run that was being collected.
-/

namespace CacheService

/-- A cursor, and the first row of the next run if it has been read already. -/
structure Runs where
  cursor : Cursor
  pending : Option (Key × Row) := none

namespace Runs

def remaining (r : Runs) : Nat :=
  r.cursor.rows.length + (if r.pending.isSome then 1 else 0)

/-- Reads on as long as rows have the key of the run, and adds them to it. -/
def collect (groupKey : Row → Outcome Key) (key : Key) (run : List Row) (c : Cursor) :
    Outcome (List Row) × Runs :=
  match _ : c.next with
  | (.error e, rest) => (.error e, { cursor := rest })
  | (.ok none, rest) => (.ok run, { cursor := rest })
  | (.ok (some row), rest) =>
    match groupKey row with
    | .error e => (.error e, { cursor := rest })
    | .ok rowKey =>
      if rowKey = key then collect groupKey key (run ++ [row]) rest
      else (.ok run, { cursor := rest, pending := some (rowKey, row) })
termination_by c.rows.length
decreasing_by exact Cursor.length_rows_next ‹_›

/-- The next run. After the last row every call answers none. -/
def next (groupKey : Row → Outcome Key) (r : Runs) : Outcome (Option (List Row)) × Runs :=
  match r.pending with
  | some (key, row) =>
    let (outcome, rest) := collect groupKey key [row] r.cursor
    (outcome.map some, rest)
  | none =>
    match r.cursor.next with
    | (.error e, rest) => (.error e, { cursor := rest })
    | (.ok none, rest) => (.ok none, { cursor := rest })
    | (.ok (some row), rest) =>
      match groupKey row with
      | .error e => (.error e, { cursor := rest })
      | .ok key =>
        let (outcome, rest) := collect groupKey key [row] rest
        (outcome.map some, rest)

/-! ## Every run uses up rows -/

/-- Unless it fails, reading a run to its end leaves no more rows than the cursor had. -/
theorem remaining_collect (groupKey : Row → Outcome Key) (key : Key) (run : List Row)
    (c : Cursor) (h : ∀ e, (collect groupKey key run c).1 ≠ .error e) :
    (collect groupKey key run c).2.remaining ≤ c.rows.length := by
  fun_induction collect groupKey key run c with
  | case1 run c e rest hn => simp at h
  | case2 run c rest hn =>
    have : rest.rows = c.rows := Cursor.rows_next_none hn
    simp [remaining, this]
  | case3 run c row rest hn e hk => simp at h
  | case4 run c row rest hn hk ih =>
    have := Cursor.length_rows_next hn
    have := ih h
    omega
  | case5 run c row rest hn rowKey hk hne =>
    have := Cursor.length_rows_next hn
    simp [remaining]
    omega

/-- A call that delivers a run leaves fewer rows. -/
theorem remaining_next {groupKey : Row → Outcome Key} {r rest : Runs} {run : List Row}
    (h : next groupKey r = (.ok (some run), rest)) : rest.remaining < r.remaining := by
  unfold next at h
  cases hp : r.pending with
  | some p =>
    obtain ⟨key, row⟩ := p
    simp only [hp, Prod.mk.injEq] at h
    obtain ⟨ho, hr⟩ := h
    have hle := remaining_collect groupKey key [row] r.cursor (by
      intro e he
      rw [he] at ho
      simp [Except.map] at ho)
    rw [hr] at hle
    simp only [remaining, hp, Option.isSome_some, if_true]
    simp only [remaining] at hle
    omega
  | none =>
    simp only [hp] at h
    cases hn : r.cursor.next with
    | mk outcome after =>
      cases outcome with
      | error e => simp [hn] at h
      | ok row? =>
        cases row? with
        | none => simp [hn] at h
        | some row =>
          simp only [hn] at h
          have hlt := Cursor.length_rows_next hn
          cases hk : groupKey row with
          | error e => simp [hk] at h
          | ok key =>
            simp only [hk, Prod.mk.injEq] at h
            obtain ⟨ho, hr⟩ := h
            have hle := remaining_collect groupKey key [row] after (by
              intro e he
              rw [he] at ho
              simp [Except.map] at ho)
            rw [hr] at hle
            simp only [remaining, hp, Option.isSome_none] at hle ⊢
            simp
            omega

end Runs
end CacheService
