import CacheService.Row.Value
import CacheService.Error

/-!
# Rows

A row of column values. Columns are counted from one, and each accessor states which kind of value
it accepts.
-/

namespace CacheService

structure Row where
  values : List Value
  deriving DecidableEq, Repr

inductive ColumnFault where
  | outOfRange (position columns : Nat)
  | mismatch (position : Nat) (expected found : String)
  deriving DecidableEq, Repr

namespace ColumnFault

def message : ColumnFault → String
  | outOfRange position columns =>
    s!"position {position} out of range for row of {columns} columns"
  | mismatch position expected found => s!"column {position} expected {expected}, found {found}"

def toError (fault : ColumnFault) : CacheError :=
  .column fault.message

end ColumnFault

namespace Row

def size (row : Row) : Nat :=
  row.values.length

def value (row : Row) (position : Nat) : Outcome Value :=
  match position with
  | 0 => .error (ColumnFault.outOfRange 0 row.size).toError
  | index + 1 =>
    match row.values[index]? with
    | some v => .ok v
    | none => .error (ColumnFault.outOfRange (index + 1) row.size).toError

def isNull (row : Row) (position : Nat) : Outcome Bool :=
  (row.value position).map fun v => v == .null

def mismatch (position : Nat) (expected : String) (found : Value) : CacheError :=
  (ColumnFault.mismatch position expected found.kind).toError

def integer (row : Row) (position : Nat) : Outcome Int64 := do
  match ← row.value position with
  | .integer i => pure i
  | found => throw (mismatch position "integer" found)

/-- A column of numbers, whole ones included. -/
def real (row : Row) (position : Nat) : Outcome Double := do
  match ← row.value position with
  | .real x => pure x
  | .integer i => pure (Double.ofInt i.toInt)
  | found => throw (mismatch position "real" found)

/-- A column of truth values, stored as whole numbers: all but zero is true. -/
def flag (row : Row) (position : Nat) : Outcome Bool := do
  return (← row.integer position) != 0

/-- A column of texts. Numbers are shown as text, and null is no text. -/
def text (row : Row) (position : Nat) : Outcome (Option String) := do
  match ← row.value position with
  | .null => pure none
  | .text s => pure (some s)
  | .integer i => pure (some (Value.integer i).display)
  | .real x => pure (some (Value.real x).display)
  | found => throw (mismatch position "text" found)

end Row
end CacheService
