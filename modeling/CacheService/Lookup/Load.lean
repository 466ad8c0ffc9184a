import CacheService.Lookup.KeyTable
import CacheService.Lookup.Runs

/-!
# Loading a table

A load drains a cursor into a table through an interpreter and answers how many entries it stored.
Entries replace older ones under the same key. What was stored before a failure stays, and the
cursor is closed in every case; a failure of the draining goes before a failure of the closing.
-/

namespace CacheService
namespace Load

variable {α : Type}

/-- Stores what an interpreter made. Making nothing is a failure. -/
def store (name : String) (made : Outcome (Option (Entry α))) (t : KeyTable α) :
    Outcome Unit × KeyTable α :=
  match made with
  | .error e => (.error e, t)
  | .ok none => (.error (.missingKeyValue name), t)
  | .ok (some e) => (.ok (), t.insert e)

def drainRows (name : String) (entry : Row → Outcome (Option (Entry α))) (count : Nat)
    (c : Cursor) (t : KeyTable α) : Outcome Nat × Cursor × KeyTable α :=
  match _ : c.next with
  | (.error e, rest) => (.error e, rest, t)
  | (.ok none, rest) => (.ok count, rest, t)
  | (.ok (some row), rest) =>
    match store name (entry row) t with
    | (.error e, t) => (.error e, rest, t)
    | (.ok (), t) => drainRows name entry (count + 1) rest t
termination_by c.rows.length
decreasing_by exact Cursor.length_rows_next ‹_›

def drainRuns (name : String) (groupKey : Row → Outcome Key)
    (combine : List Row → Outcome (Option (Entry α))) (count : Nat) (r : Runs) (t : KeyTable α) :
    Outcome Nat × Cursor × KeyTable α :=
  match _ : r.next groupKey with
  | (.error e, rest) => (.error e, rest.cursor, t)
  | (.ok none, rest) => (.ok count, rest.cursor, t)
  | (.ok (some run), rest) =>
    match store name (combine run) t with
    | (.error e, t) => (.error e, rest.cursor, t)
    | (.ok (), t) => drainRuns name groupKey combine (count + 1) rest t
termination_by r.remaining
decreasing_by exact Runs.remaining_next ‹_›

def drain (i : Interpreter α) (c : Cursor) (t : KeyTable α) : Outcome Nat × Cursor × KeyTable α :=
  match i with
  | .perRow name entry => drainRows name entry 0 c t
  | .perRun name groupKey combine => drainRuns name groupKey combine 0 { cursor := c } t

end Load

/-- Drains the cursor into the table and closes it. -/
def KeyTable.load {α : Type} (t : KeyTable α) (i : Interpreter α) (c : Cursor) :
    Outcome Nat × Cursor × KeyTable α :=
  let (drained, c, t) := Load.drain i c t
  let (closed, c) := c.close
  let outcome :=
    match drained, closed with
    | .error e, _ => .error e
    | .ok _, .error e => .error e
    | .ok count, .ok () => .ok count
  (outcome, c, t)

end CacheService
