import CacheService.Row.QueryService
import CacheService.Sql.Statement

/-!
# A service with stored tables

A query service that runs statements on stored tables.
-/

namespace CacheService
namespace Tables

/-- Refuses rows that a table has no place for, and names in them, for there are no columns. -/
def checkRows (tables : Tables) (path : List String) (rows : List (List Sql.Expression)) :
    Except Sql.Fault Unit := do
  let t ← tables.find path
  rows.forM fun row => row.forM fun a => a.checkNames (Sql.Query.outside tables)
  let widths := rows.map List.length
  if widths.any fun w => some w != widths.head? then throw .unevenRows
  if let some w := widths.head? then
    if w != t.columns then throw (.width (String.intercalate "." path) t.columns w)
  rows.forM fun row => row.forM fun a => a.checkUses (Sql.Query.outside tables)

def check (tables : Tables) : Sql.Statement → Except Sql.Fault Unit
  | .query q => discard (q.check tables)
  | .insertion path rows => tables.checkRows path rows

def insert (tables : Tables) (path : List String) (rows : List (List Sql.Expression)) :
    Except Sql.Fault Tables := do
  let t ← tables.find path
  let rows ← rows.mapM fun row => row.mapM fun a => a.value (Sql.Query.outside tables)
  return tables.create (path.getLast?.getD "") { t with rows := t.rows ++ rows }

def run (tables : Tables) : Sql.Statement → Except Sql.Fault (List (List Cell) × Tables)
  | .query q => do return (← q.rows (← q.check tables) tables, tables)
  | .insertion path rows => do return ([], ← tables.insert path rows)

/-- Runs the statement of a sentence, or tells why it is refused. A strict caller has no values for
parameters and refuses them; for all others they are null. -/
def runSentence (tables : Tables) (strict : Bool) (s : Sql.Sentence) :
    Except String (List (List Cell) × Tables) :=
  Except.mapError s.message do
    let statement ← Sql.Statement.ofSentence s
    tables.check statement
    if strict && s.parameterCount != 0 then throw (.parameters s.parameterCount)
    tables.run statement

/-- Answers the first statement of a text with a cursor over its rows. -/
def answer (sql : String) (tables : Tables) : Outcome Cursor × Tables :=
  let s := (Sql.Sentence.ofText sql).headD ⟨sql, 0, [], none⟩
  match tables.runSentence true s with
  | .ok (rows, tables) => (.ok { rows := rows.map fun row => ⟨row.map Cell.value⟩ }, tables)
  | .error message => (.error (.database sql message), tables)

def service : QueryService Tables where
  answer := answer

/-- Runs statements one after the other, up to the first failure. -/
def runAll (sql : String) : List Sql.Sentence → Tables → Outcome Unit × Tables
  | [], tables => (.ok (), tables)
  | s :: rest, tables =>
    match tables.runSentence false s with
    | .ok (_, tables) => runAll sql rest tables
    | .error message => (.error (.database sql message), tables)

/-- Runs all statements of a text, without their rows. -/
def batch (sql : String) (tables : Tables) : Outcome Unit × Tables :=
  runAll sql (Sql.Sentence.ofText sql) tables

end Tables
end CacheService
