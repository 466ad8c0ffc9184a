import CacheService.Sql.Fault
import Std.Data.ExtTreeMap

/-!
# Stored tables

Tables by name, and what a name in a statement means among the columns of one of them. Names are
compared without regard to the case of ASCII letters.
-/

namespace CacheService

structure StoredTable where
  columns : Nat
  rows : List (List Cell)

/-- Stored tables by name, in small letters. -/
structure Tables where
  byName : Std.ExtTreeMap String StoredTable := ∅

namespace Tables

def find? (tables : Tables) (name : String) : Option StoredTable :=
  tables.byName[name.toLower]?

def create (tables : Tables) (name : String) (table : StoredTable) : Tables :=
  ⟨tables.byName.insert name.toLower table⟩

def schema : String :=
  "main"

/-- The table of a name, before which the schema may stand. -/
def find (tables : Tables) (path : List String) : Except Sql.Fault StoredTable :=
  let name :=
    match path with
    | [above, name] => if above.toLower = schema then some name else none
    | path => path.head?
  match name.bind tables.find? with
  | some t => .ok t
  | none => .error (.noTable path)

end Tables

namespace Sql

structure Source where
  /-- the name of the table in the query -/
  name : String
  table : StoredTable

/-- What a name means for a row. -/
inductive Column where
  | number
  | index (i : Nat)
  deriving DecidableEq, Repr

namespace Source

/-- What a name means in a table, whose columns are called `c1`, `c2` and so on. -/
def named? (s : Source) (name : String) : Option Column :=
  let name := name.toLower
  match (List.range s.table.columns).find? fun i => name == s!"c{i + 1}" with
  | some i => some (.index i)
  | none => if name ∈ ["rowid", "oid", "_rowid_"] then some .number else none

def isCalled (s : Source) (name : String) : Bool :=
  s.name.toLower == name.toLower

/-- What a name means, before which the table may stand, and before it the schema. -/
def column? (s : Source) (path : List String) : Option Column :=
  match path with
  | [name] => s.named? name
  | [table, name] => if s.isCalled table then s.named? name else none
  | [above, table, name] =>
    if above.toLower = Tables.schema && s.isCalled table then s.named? name else none
  | _ => none

end Source

/-- What an expression is computed from: all tables, the one that is read, and a row of it. -/
structure Environment where
  tables : Tables
  source : Option Source
  row : List Cell := []
  /-- the number of the row, counted from one -/
  number : Nat := 0
  /-- whether a column of the result is computed, and not a condition -/
  forResult : Bool := false

namespace Environment

def column? (env : Environment) (path : List String) : Option Column :=
  env.source.bind fun s => s.column? path

def cell (env : Environment) : Column → Cell
  | .number => .integer (Int64.ofNat env.number)
  | .index i => env.row[i]?.getD .null

end Environment
end Sql
end CacheService
