import CacheService.Sql.Expression.Reader
import CacheService.Sql.Query

/-!
# Reading queries

A query is read clause by clause. A clause that is known but not understood is given up, and a
lexeme that begins no clause is left to what stands behind the query.
-/

namespace CacheService
namespace Sql
namespace Query

open Reader

def readAlias : Reader (Option String) := do
  if ← accept (Lexeme.isKeyword "AS") then return some (← take Lexeme.name?)
  match (← get).head?.bind Lexeme.alias? with
  | some name =>
    advance
    return some name
  | none => return none

def readColumn : Reader ResultColumn := do
  if ← accept (Lexeme.isSign "*") then return .all
  match ← get with
  | l :: point :: star :: _ =>
    if point.isSign "." && star.isSign "*" then
      if let some name := l.name? then
        advance
        advance
        advance
        return .allOf name
  | _ => pure ()
  let a ← Expression.read
  return .one a (← readAlias)

def readTable : Reader TableName := do
  if ← sees (Lexeme.isSign "(") then giveUp
  let path ← Expression.readPath
  if ← sees (fun l => l.isSign "(" || l.isOneOf ["INDEXED", "NOT"]) then giveUp
  let name ← readAlias
  if ← sees (fun l => l.isSign "," || l.isOneOf ("JOIN" :: "ON" :: "USING" :: Lexeme.joining)) then
    giveUp
  return { path, alias? := name }

/-- Reads an expression, and answers also where its first part stands that is no sign. -/
def readPlaced : Reader (Expression × Lexeme) := do
  let isOpening (l : Lexeme) : Bool := ["(", "-", "+"].any fun s => l.isSign s
  let some place := ((← get).dropWhile isOpening).head? | throw .incomplete
  return (← Expression.read, place)

def readTerm : Reader OrderTerm := do
  let (key, place) ← readPlaced
  let descending ← accept (Lexeme.isKeyword "DESC")
  if !descending then discard (accept (Lexeme.isKeyword "ASC"))
  if ← accept (Lexeme.isKeyword "NULLS") then
    let nullsFirst ← accept (Lexeme.isKeyword "FIRST")
    if !nullsFirst then skip (Lexeme.isKeyword "LAST")
    return { key, place, descending, nullsFirst }
  return { key, place, descending, nullsFirst := !descending }

def readClause? (word : String) : Reader (Option Expression) := do
  if ← accept (Lexeme.isKeyword word) then return some (← Expression.read)
  return none

def readSelect : Reader Select := do
  let distinct ← accept (Lexeme.isKeyword "DISTINCT")
  if !distinct then discard (accept (Lexeme.isKeyword "ALL"))
  let columns ← separated readColumn (← get).length
  let table? ← if ← accept (Lexeme.isKeyword "FROM") then some <$> readTable else pure none
  let condition? ← readClause? "WHERE"
  let groups ←
    if ← accept (Lexeme.isKeyword "GROUP") then
      skip (Lexeme.isKeyword "BY")
      separated readPlaced (← get).length
    else pure []
  return { distinct, columns, table?, condition?, groups, having? := ← readClause? "HAVING" }

def readStage : Reader Stage := do
  let select ← readSelect
  let order ←
    if ← accept (Lexeme.isKeyword "ORDER") then
      skip (Lexeme.isKeyword "BY")
      separated readTerm (← get).length
    else pure []
  if !(← accept (Lexeme.isKeyword "LIMIT")) then
    return { select, order, limit? := none, offset? := none }
  let first ← Expression.read
  if ← accept (Lexeme.isKeyword "OFFSET") then
    return { select, order, limit? := some first, offset? := some (← Expression.read) }
  if ← accept (Lexeme.isSign ",") then
    return { select, order, limit? := some (← Expression.read), offset? := some first }
  return { select, order, limit? := some first, offset? := none }

def readOperator : Reader (Option SetOperator) := do
  if ← accept (Lexeme.isKeyword "UNION") then
    if ← accept (Lexeme.isKeyword "ALL") then return some .unionAll
    return some .union
  if ← accept (Lexeme.isKeyword "EXCEPT") then return some .except
  if ← accept (Lexeme.isKeyword "INTERSECT") then return some .intersect
  return none

/-- Reads queries with operators between them, behind those that were read before. -/
def readStages (before : List (Stage × SetOperator)) : Nat → Reader Query
  | 0 => refuse
  | n + 1 => do
    skip (Lexeme.isKeyword "SELECT")
    let stage ← readStage
    match ← readOperator with
    | some op =>
      if ← sees (Lexeme.isKeyword "VALUES") then giveUp
      readStages ((stage, op) :: before) n
    | none => return { last := stage, before }

def read : Reader Query := do
  readStages [] ((← get).length + 1)

end Query
end Sql
end CacheService
