import CacheService.Sql.Expression

/-!
# Queries

The rows that a query answers: those of a table that meet a condition, joined with the rows of other
queries, in some order and up to some number.
-/

namespace CacheService
namespace Sql

abbrev CellRow := List Cell

/-- What a query asks for of each row. -/
inductive ResultColumn where
  | all
  | allOf (table : String)
  /-- a value, and the name it is given -/
  | one (a : Expression) (name : Option String)

structure TableName where
  path : List String
  alias? : Option String

structure Select where
  distinct : Bool
  columns : List ResultColumn
  table? : Option TableName
  condition? : Option Expression
  /-- what rows are put into groups by, of which only the first row is answered -/
  groups : List (Expression × Lexeme)
  /-- the condition on groups -/
  having? : Option Expression

structure OrderTerm where
  key : Expression
  /-- where the expression stands -/
  place : Lexeme
  descending : Bool
  nullsFirst : Bool

/-- A query with the clauses behind it. -/
structure Stage where
  select : Select
  order : List OrderTerm
  limit? : Option Expression
  offset? : Option Expression

inductive SetOperator where
  | union
  | unionAll
  | except
  | intersect
  deriving DecidableEq, Repr

structure Query where
  last : Stage
  /-- the others from right to left, each with the operator behind it -/
  before : List (Stage × SetOperator)

namespace SetOperator

def name : SetOperator → String
  | union => "UNION"
  | unionAll => "UNION ALL"
  | except => "EXCEPT"
  | intersect => "INTERSECT"

end SetOperator

/-! ## Results -/

/-- A query whose table and columns are known. -/
structure Scope where
  environment : Environment
  /-- the values that are answered, with their names -/
  results : List (Expression × Option String)
  select : Select

namespace Select

def allColumns (s : Source) : List (Expression × Option String) :=
  (List.range s.table.columns).map fun i =>
    let name := s!"c{i + 1}"
    let place : Lexeme := { token := .word name, text := name, offset := 0, rest := [] }
    (.column [name] place, some name)

def scope (tables : Tables) (s : Select) : Except Fault Scope := do
  let source? ← s.table?.mapM fun t => do
    let table ← tables.find t.path
    return ({ name := t.alias?.getD (t.path.getLast?.getD ""), table } : Source)
  let results ← s.columns.mapM fun
    | .all =>
      match source? with
      | some source => .ok (allColumns source)
      | none => .error .noTables
    | .allOf name =>
      match source? with
      | some source =>
        if source.isCalled name then .ok (allColumns source) else .error (.noTable [name])
      | none => .error (.noTable [name])
    | .one (.column path place) none => .ok [(.column path place, path.getLast?)]
    | .one a name => .ok [(a, name)]
  return { environment := { tables, source := source? }, results := results.flatten, select := s }

end Select

/-! ## Order -/

/-- The number of the column that an expression is, if it is a number. -/
def position? : Expression → Option Int
  | .literal (.integer i) =>
    if i.toInt.natAbs < Nat.shiftLeft 1 31 then some i.toInt else none
  | .unary .plus a => position? a
  | .unary .minus a => (position? a).map fun i => -i
  | .collate _ a => position? a
  | _ => none

/-- The number of the column whose name an expression is, counted from zero. -/
def named? (results : List (Expression × Option String)) : Expression → Option Nat
  | .column [name] _ =>
    results.findIdx? fun r => r.2.any fun n => n.toLower == name.toLower
  | .collate _ a => named? results a
  | _ => none

/-- The column of the result that an expression in a clause is the number of. -/
def numbered? (clause : String) (width term : Nat) (a : Expression) (place : Lexeme) :
    Except Fault (Option Nat) :=
  match position? a with
  | some i =>
    if 1 ≤ i && i ≤ width then .ok (some (i.toNat - 1))
    else .error (.position clause term width place)
  | none => .ok none

structure SortKey where
  rule : Collation
  descending : Bool := false
  nullsFirst : Bool := true

def SortKey.compare (key : SortKey) (a b : Cell) : Ordering :=
  match a, b with
  | .null, .null => .eq
  | .null, _ => if key.nullsFirst then .lt else .gt
  | _, .null => if key.nullsFirst then .gt else .lt
  | a, b => if key.descending then (key.rule.compare a b).swap else key.rule.compare a b

def compareKeys : List SortKey → CellRow → CellRow → Ordering
  | key :: keys, a :: as, b :: bs => (key.compare a b).then (compareKeys keys as bs)
  | _, _, _ => .eq

def compareRows : CellRow → CellRow → Ordering
  | a :: as, b :: bs => (compare a b).then (compareRows as bs)
  | _, _ => .eq

def sameRow (a b : CellRow) : Bool :=
  compareRows a b == .eq

def unique {α : Type} (same : α → α → Bool) (items : List α) : List α :=
  items.foldl (fun kept a => if kept.any (same a) then kept else kept ++ [a]) []

/-- Items with values, in the order of these. Items with equal values stay in their order. -/
def sortByKeys {α : Type} (keys : List SortKey) (items : List (α × CellRow)) : List (α × CellRow) :=
  items.mergeSort fun a b => compareKeys keys a.2 b.2 != .gt

/-- The rows of two queries joined. All but those of a union with repetitions are ordered by their
cells. -/
def SetOperator.join (op : SetOperator) (left right : List CellRow) : List CellRow :=
  let occurs (rows : List CellRow) (r : CellRow) : Bool := rows.any (sameRow r)
  let ordered (rows : List CellRow) : List CellRow :=
    (unique sameRow rows).mergeSort fun a b => compareRows a b != .gt
  match op with
  | unionAll => left ++ right
  | union => ordered (left ++ right)
  | except => ordered (left.filter fun r => !occurs right r)
  | intersect => ordered (left.filter (occurs right))

/-! ## Checking -/

def count (a : Expression) (env : Environment) : Except Fault Int := do
  match (← a.value env).asNumber with
  | .integer i => return i.toInt
  | .real x =>
    if x.isFinite && Double.ofInt x.truncated = x && (Cell.ofInt? x.truncated).isSome then
      return x.truncated
    throw .mismatch
  | _ => throw .mismatch

namespace Query

def stages (q : Query) : List Stage :=
  q.last :: q.before.map Prod.fst

/-- Refuses clauses before an operator. -/
def checkEarly (q : Query) : Except Fault Unit :=
  q.before.forM fun (s, op) => do
    if !s.order.isEmpty then throw (.early "ORDER BY" op.name)
    if s.limit?.isSome then throw (.early "LIMIT" op.name)

/-- The environment of clauses that mean no table. -/
def outside (tables : Tables) : Environment :=
  { tables, source := none }

/-- The column of the result for each term, if it is the number or the name of one. -/
def targets (q : Query) (scopes : List Scope) : Except Fault (List (OrderTerm × Option Nat)) :=
  let width := (scopes.head?.map fun s => s.results.length).getD 0
  q.last.order.zipIdx.mapM fun (t, i) => do
    let number? ← numbered? "ORDER BY" width (i + 1) t.key t.place
    let name? := scopes.reverse.findSome? fun s => named? s.results t.key
    match number? <|> name?, q.before with
    | none, _ :: _ => throw (.orderColumn (i + 1))
    | target?, _ => return (t, target?)

def groupKeys (s : Scope) : Except Fault (List Expression) :=
  let width := s.results.length
  s.select.groups.zipIdx.mapM fun ((a, place), i) => do
    match ← numbered? "GROUP BY" width (i + 1) a place with
    | some k => return (s.results[k]?.map Prod.fst).getD a
    | none => return a

def checkScope (q : Query) (s : Scope) : Except Fault Unit := do
  let forResult := { s.environment with forResult := true }
  s.results.forM fun (a, _) => a.checkNames forResult
  if s.select.having?.isSome && s.select.groups.isEmpty then throw .noGroups
  s.select.having?.forM fun a => a.checkNames forResult
  s.select.condition?.forM fun a => a.checkNames s.environment
  if q.before.isEmpty then
    (← q.targets [s]).forM fun (t, target?) => do
      if target?.isNone then t.key.checkNames forResult
  (← groupKeys s).forM fun a => a.checkNames s.environment

/-- Refuses queries that have not as many columns as the query to the right of them. -/
def checkWidths (q : Query) (scopes : List Scope) : Except Fault Unit :=
  let widths := scopes.map fun s => s.results.length
  (q.before.zip (widths.zip (widths.drop 1))).forM fun ((_, op), right, left) =>
    if left = right then .ok () else .error (.sideWidth op.name)

def checkUses (q : Query) (s : Scope) : Except Fault Unit := do
  s.results.forM fun (a, _) => a.checkUses s.environment
  s.select.condition?.forM fun a => a.checkUses s.environment
  s.select.having?.forM fun a => a.checkUses s.environment
  (← groupKeys s).forM fun a => do
    a.collation?.forM checkOne
    a.checkUses s.environment
  q.last.order.forM fun t => do
    t.key.collation?.forM checkOne
    t.key.checkUses s.environment
where
  /-- Refuses a name that is no collation. -/
  checkOne (name : String) : Except Fault Unit := Expression.checkCollation name

/-- Refuses a query with a fault, and answers what its stages mean. -/
def check (tables : Tables) (q : Query) : Except Fault (List Scope) := do
  q.checkEarly
  let scopes ← q.stages.mapM fun s => s.select.scope tables
  q.last.limit?.forM fun a => a.checkNames (outside tables)
  q.last.offset?.forM fun a => a.checkNames (outside tables)
  scopes.forM q.checkScope
  q.checkWidths scopes
  discard (q.targets scopes)
  scopes.forM q.checkUses
  return scopes

/-! ## Rows -/

def ruleOf (a : Expression) : Collation :=
  (a.collation?.bind Collation.ofName?).getD .binary

/-- The first row of each group, in the order of the groups. -/
def grouped (keys : List Expression) (rows : List Environment) :
    Except Fault (List Environment) := do
  let sortKeys := keys.map fun a => { rule := ruleOf a : SortKey }
  let rows ← rows.mapM fun env => do return (env, ← keys.mapM fun a => a.value env)
  let same (a b : Environment × CellRow) : Bool := compareKeys sortKeys a.2 b.2 == .eq
  return (unique same (sortByKeys sortKeys rows)).map Prod.fst

def filter (condition? : Option Expression) (rows : List Environment) :
    Except Fault (List Environment) :=
  match condition? with
  | some a => rows.filterM fun env => a.holds env
  | none => .ok rows

/-- The rows of one query, each with the values by which it is ordered. -/
def rowsOf (targets : List (OrderTerm × Option Nat)) (s : Scope) :
    Except Fault (List (CellRow × CellRow)) := do
  let given : List CellRow :=
    match s.environment.source with
    | some source => source.table.rows
    | none => [[]]
  let rows := given.zipIdx.map fun (row, i) => { s.environment with row, number := i + 1 }
  let rows ← filter s.select.condition? rows
  let keys ← groupKeys s
  let rows ← if keys.isEmpty then .ok rows else grouped keys rows
  let rows ← filter s.select.having? rows
  let rows ← rows.mapM fun env => do
    let results ← s.results.mapM fun (a, _) => a.value env
    let keys ← targets.mapM fun (t, target?) =>
      match target? with
      | some k => .ok (results[k]?.getD .null)
      | none => t.key.value env
    return (results, keys)
  return if s.select.distinct then unique (fun a b => sameRow a.1 b.1) rows else rows

def keysOf (targets : List (OrderTerm × Option Nat)) (row : CellRow) : CellRow :=
  targets.map fun (_, target?) => (target?.bind fun k => row[k]?).getD .null

def joinedRows (q : Query) (targets : List (OrderTerm × Option Nat)) (scopes : List Scope) :
    Except Fault (List (CellRow × CellRow)) := do
  match scopes with
  | [s] => rowsOf targets s
  | scopes =>
    let parts ← scopes.reverse.mapM fun s => return (← rowsOf [] s).map Prod.fst
    let operators := (q.before.map Prod.snd).reverse
    let rows := (operators.zip (parts.drop 1)).foldl (fun rows (op, part) => op.join rows part)
      (parts.head?.getD [])
    return rows.map fun r => (r, keysOf targets r)

/-- How the values of a term are compared: by its own collation, or by that of the column that it
stands for. -/
def sortKey (scopes : List Scope) (t : OrderTerm) (target? : Option Nat) : SortKey :=
  let column? := do (← scopes.getLast?).results[← target?]?
  let rule :=
    match t.key.collation?, column? with
    | none, some (a, _) => ruleOf a
    | _, _ => ruleOf t.key
  { rule, descending := t.descending, nullsFirst := t.nullsFirst }

def rows (q : Query) (scopes : List Scope) (tables : Tables) : Except Fault (List CellRow) := do
  let limit? ← q.last.limit?.mapM fun a => count a (outside tables)
  if limit? = some 0 then return []
  let offset? ← q.last.offset?.mapM fun a => count a (outside tables)
  let targets ← q.targets scopes
  let rows ← q.joinedRows targets scopes
  let keys := targets.map fun (t, target?) => sortKey scopes t target?
  let rows := (sortByKeys keys rows).drop (offset?.getD 0).toNat
  let rows :=
    match limit? with
    | some n => if n < 0 then rows else rows.take n.toNat
    | none => rows
  return rows.map Prod.fst

end Query
end Sql
end CacheService
