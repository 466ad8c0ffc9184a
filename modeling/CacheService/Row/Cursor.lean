import CacheService.Row.Basic

/-!
# Cursors

The rows of one query, read one after the other. Reads are counted from one, and any of them may
fail; a failing read takes no row. Closing drops the rows that are left.
-/

namespace CacheService

/-- The rows that are left to read, and the failures to come. -/
structure Cursor where
  rows : List Row
  /-- reads made so far -/
  reads : Nat := 0
  /-- times the cursor was closed -/
  closes : Nat := 0
  /-- the failure of the read of that number, if it fails -/
  failure : Nat → Option CacheError := fun _ => none
  /-- the failure of closing, if it fails -/
  closing : Option CacheError := none

namespace Cursor

/-- Reads the next row. After the last row every read answers none. -/
def next (c : Cursor) : Outcome (Option Row) × Cursor :=
  let read := c.reads + 1
  match c.failure read with
  | some e => (.error e, { c with reads := read })
  | none =>
    match c.rows with
    | [] => (.ok none, { c with reads := read })
    | row :: rest => (.ok (some row), { c with rows := rest, reads := read })

/-- Closes the cursor. It can be closed again. -/
def close (c : Cursor) : Outcome Unit × Cursor :=
  let outcome :=
    match c.closing with
    | some e => .error e
    | none => .ok ()
  (outcome, { c with rows := [], closes := c.closes + 1 })

def isClosed (c : Cursor) : Bool :=
  0 < c.closes

/-- A read that delivers a row leaves one row fewer. -/
theorem length_rows_next {c rest : Cursor} {row : Row}
    (h : c.next = (.ok (some row), rest)) : rest.rows.length < c.rows.length := by
  unfold next at h
  cases hf : c.failure (c.reads + 1) with
  | some e => simp [hf] at h
  | none =>
    cases hr : c.rows with
    | nil => simp [hf, hr] at h
    | cons r rs =>
      simp only [hf, hr, Prod.mk.injEq, Except.ok.injEq, Option.some.injEq] at h
      simp [← h.2]

/-- A read that finds no row leaves the rows as they are. -/
theorem rows_next_none {c rest : Cursor} (h : c.next = (.ok none, rest)) :
    rest.rows = c.rows := by
  unfold next at h
  cases hf : c.failure (c.reads + 1) with
  | some e => simp [hf] at h
  | none =>
    cases hr : c.rows with
    | nil =>
      simp only [hf, hr, Prod.mk.injEq, true_and] at h
      rw [← h]
    | cons r rs => simp [hf, hr] at h

end Cursor
end CacheService
