import CacheService.Row.Cursor

/-!
# Query services

What answers statements. A service is a state and one operation on it: a statement is refused, or it
is answered with a cursor. A connection counts what passes through it: the statements, refused ones
included, and the cursors that were closed.
-/

namespace CacheService

structure QueryService (σ : Type) where
  answer : String → σ → Outcome Cursor × σ

/-- A service in some state, with a record of its use. -/
structure Connection (σ : Type) where
  state : σ
  /-- the statements executed so far, the last one at the end -/
  executed : List String := []
  /-- how often cursors were closed -/
  closed : Nat := 0

namespace Connection

variable {σ : Type}

def execute (service : QueryService σ) (sql : String) (link : Connection σ) :
    Outcome Cursor × Connection σ :=
  let (outcome, state) := service.answer sql link.state
  (outcome, { link with state, executed := link.executed ++ [sql] })

def noteClosed (c : Cursor) (link : Connection σ) : Connection σ :=
  { link with closed := link.closed + c.closes }

end Connection

namespace Cursor

/-- Reads all rows that are left, up to the first failure. -/
def drain (c : Cursor) (rows : List Row) : Outcome (List Row) × Cursor :=
  match _ : c.next with
  | (.error e, rest) => (.error e, rest)
  | (.ok none, rest) => (.ok rows, rest)
  | (.ok (some row), rest) => rest.drain (rows ++ [row])
termination_by c.rows.length
decreasing_by exact length_rows_next ‹_›

end Cursor

def Connection.select {σ : Type} (service : QueryService σ) (sql : String) (link : Connection σ) :
    Outcome (List Row) × Connection σ :=
  match link.execute service sql with
  | (.error e, link) => (.error e, link)
  | (.ok cursor, link) =>
    let (rows, cursor) := cursor.drain []
    let (closed, cursor) := cursor.close
    let outcome :=
      match rows, closed with
      | .error e, _ => .error e
      | .ok _, .error e => .error e
      | .ok rows, .ok () => .ok rows
    (outcome, link.noteClosed cursor)

end CacheService
