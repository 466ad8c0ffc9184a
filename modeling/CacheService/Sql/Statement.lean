import CacheService.Sql.Query.Reader

/-!
# Statements

The statements that a service with stored tables understands: queries, and the insertion of rows. A
text can hold several statements with semicolons between them.
-/

namespace CacheService
namespace Sql

inductive Statement where
  | query (q : Query)
  | insertion (table : List String) (rows : List (List Expression))

structure Sentence where
  /-- the text from the statement on -/
  text : String
  /-- how many bytes stand before that text -/
  start : Nat
  lexemes : List Lexeme
  /-- the semicolon that ends the statement -/
  closing : Option Lexeme

namespace Sentence

/-- Cuts lexemes into sentences. The given ones, latest first, belong to the first sentence, and
empty sentences are left out. -/
def cut (text : String) (start : Nat) (read : List Lexeme) : List Lexeme → List Sentence
  | [] => if read.isEmpty then [] else [⟨text, start, read.reverse, none⟩]
  | l :: rest =>
    if !l.isSign ";" then cut text start (l :: read) rest
    else if read.isEmpty then cut text start [] rest
    else ⟨text, start, read.reverse, some l⟩ :: cut (String.ofList l.rest) (l.offset + 1) [] rest

def ofText (sql : String) : List Sentence :=
  cut sql 0 [] (Sql.lexemes sql)

def message (s : Sentence) (fault : Fault) : String :=
  fault.message s.text s.start

/-- How many values the parameters ask for. A parameter with a number asks for as many, one with a
new name or without one for one more. -/
def parameterCount (s : Sentence) : Nat :=
  let step (seen : Nat × List String) (l : Lexeme) : Nat × List String :=
    let (count, names) := seen
    if l.token != .variable || l.text ∈ names then seen
    else
      match l.text.toList with
      | ['?'] => (count + 1, names)
      | '?' :: digits => (max count (Reading.digitsValue digits), names)
      | _ => (count + 1, l.text :: names)
  (s.lexemes.foldl step (0, [])).1

end Sentence

namespace Statement

open Reader

def otherBeginnings : List String :=
  ["ALTER", "ANALYZE", "ATTACH", "BEGIN", "COMMIT", "CREATE", "DELETE", "DETACH", "DROP", "END",
    "EXPLAIN", "PRAGMA", "REINDEX", "RELEASE", "REPLACE", "ROLLBACK", "SAVEPOINT", "UPDATE",
    "VACUUM", "VALUES", "WITH"]

def readRow : Reader (List Expression) := do
  skip (Lexeme.isSign "(")
  let row ← separated Expression.read (← get).length
  skip (Lexeme.isSign ")")
  return row

def readInsertion : Reader Statement := do
  if ← sees (Lexeme.isKeyword "OR") then giveUp
  skip (Lexeme.isKeyword "INTO")
  let table ← Expression.readPath
  if ← sees (fun l => l.isSign "(" || l.isOneOf ["AS", "DEFAULT", "SELECT", "WITH"]) then giveUp
  skip (Lexeme.isKeyword "VALUES")
  return .insertion table (← separated readRow (← get).length)

def read : Reader Statement := do
  if ← sees (Lexeme.isKeyword "SELECT") then return .query (← Query.read)
  if ← accept (Lexeme.isKeyword "INSERT") then return ← readInsertion
  if ← sees (Lexeme.isOneOf otherBeginnings) then giveUp
  refuse

/-- Reads a statement. Its end is reached early where the semicolon stands, if there is one. -/
def ofSentence (s : Sentence) : Except Fault Statement :=
  match s.lexemes.isEmpty, read.run s.lexemes, s.closing with
  | true, _, _ => .error .empty
  | _, .error .incomplete, some l => .error (.unexpected l)
  | _, .error fault, _ => .error fault
  | _, .ok (_, l :: _), _ => .error (.unexpected l)
  | _, .ok (statement, []), _ => .ok statement

end Statement
end Sql
end CacheService
