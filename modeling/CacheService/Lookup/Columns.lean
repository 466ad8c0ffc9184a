import CacheService.Lookup.Cached

/-!
# Interpreters that name columns

Interpreters described by the columns that hold the key and the value, for rows and for runs of
rows.
-/

namespace CacheService

inductive KeyColumn.Kind where
  | value
  | integer
  | text
  | flag
  deriving DecidableEq, Repr

structure KeyColumn where
  position : Nat
  kind : KeyColumn.Kind

inductive ValueColumn.Kind where
  | integer
  | text
  | real
  | flag
  deriving DecidableEq, Repr

structure ValueColumn where
  position : Nat
  kind : ValueColumn.Kind

/-- How the rows of a run become one value. -/
inductive Columns.Combine where
  /-- their number -/
  | count
  /-- the value of the last one -/
  | last
  /-- their texts, with colons between them -/
  | join
  deriving DecidableEq, Repr

structure Columns where
  key : KeyColumn
  value : ValueColumn
  /-- a row makes no entry if this column is null -/
  noneIfNull : Option Nat := none

namespace KeyColumn

def read (c : KeyColumn) (row : Row) : Outcome Key := do
  match c.kind with
  | .value => Key.ofValue (← row.value c.position)
  | .integer => return .integer (← row.integer c.position)
  | .text =>
    match ← row.text c.position with
    | some s => return .text s
    | none => return .null
  | .flag => return .flag (← row.flag c.position)

end KeyColumn

namespace ValueColumn

def read (c : ValueColumn) (row : Row) : Outcome Cached := do
  match c.kind with
  | .integer => return .integer (← row.integer c.position)
  | .text =>
    match ← row.text c.position with
    | some s => return .text s
    | none => return .null
  | .real => return .real (← row.real c.position)
  | .flag => return .flag (← row.flag c.position)

end ValueColumn

namespace Columns

def isSkipped (l : Columns) (row : Row) : Outcome Bool :=
  match l.noneIfNull with
  | some position => row.isNull position
  | none => .ok false

/-- The entry of a row: the key is read before the value. -/
def entry (l : Columns) (row : Row) : Outcome (Option (Entry Cached)) := do
  if ← l.isSkipped row then return none
  let key ← l.key.read row
  let value ← l.value.read row
  return some { key, value }

def combined (l : Columns) (how : Combine) (run : List Row) : Outcome Cached := do
  match how with
  | .count => return .integer (Int64.ofNat run.length)
  | .last =>
    match run.getLast? with
    | some row => l.value.read row
    | none => return .null
  | .join =>
    let texts ← run.mapM fun row => row.text l.value.position
    return .text (String.intercalate ":" (texts.map fun t => t.getD ""))

/-- The entry of a run: the first row decides whether there is one, and gives the key. -/
def entryOfRun (l : Columns) (how : Combine) (run : List Row) :
    Outcome (Option (Entry Cached)) := do
  match run with
  | [] => return none
  | first :: _ =>
    if ← l.isSkipped first then return none
    let key ← l.key.read first
    let value ← l.combined how run
    return some { key, value }

def perRow (name : String) (l : Columns) : Interpreter Cached :=
  .perRow name l.entry

def perRun (name : String) (group : KeyColumn) (l : Columns) (how : Combine) :
    Interpreter Cached :=
  .perRun name group.read (l.entryOfRun how)

end Columns
end CacheService
