import CacheService.Sql.Fault

/-!
# Readers

A reader takes lexemes from the beginning of a list and answers what they stand for. A lexeme that
cannot stand where it stands is at fault, and so is the end of the list where more must follow.
-/

namespace CacheService
namespace Sql

/-- What reads from a list of lexemes. -/
abbrev Reader := StateT (List Lexeme) (Except Fault)

namespace Reader

variable {α : Type}

def refuse : Reader α := do
  match ← get with
  | [] => throw .incomplete
  | l :: _ => throw (.unexpected l)

/-- Refuses what is not understood. What follows has to be whole lexemes even then. -/
def giveUp : Reader α := do
  match (← get).find? fun l => l.token = .broken with
  | some l => throw (.unexpected l)
  | none => throw .unsupported

def sees (test : Lexeme → Bool) : Reader Bool := do
  return (← get).head?.any test

def advance : Reader Unit :=
  modify (List.drop 1)

/-- Reads the next lexeme with a test that says what it stands for. -/
def take (f : Lexeme → Option α) : Reader α := do
  match (← get).head?.bind f with
  | some a =>
    advance
    return a
  | none => refuse

def accept (test : Lexeme → Bool) : Reader Bool := do
  let seen ← sees test
  if seen then advance
  return seen

def skip (test : Lexeme → Bool) : Reader Unit :=
  take fun l => if test l then some () else none

/-- Reads a list of some length at most, with commas between its items. -/
def separated (item : Reader α) : Nat → Reader (List α)
  | 0 => refuse
  | n + 1 => do
    let a ← item
    if ← accept (Lexeme.isSign ",") then return a :: (← separated item n)
    return [a]

end Reader

namespace Lexeme

def reserved : List String :=
  ["ADD", "ALL", "ALTER", "AND", "AS", "AUTOINCREMENT", "BETWEEN", "CASE", "CHECK", "COLLATE",
    "COMMIT", "CONSTRAINT", "CREATE", "DEFAULT", "DEFERRABLE", "DELETE", "DISTINCT", "DROP", "ELSE",
    "ESCAPE", "EXCEPT", "EXISTS", "FOREIGN", "FROM", "GROUP", "HAVING", "IN", "INDEX", "INSERT",
    "INTERSECT", "INTO", "IS", "ISNULL", "JOIN", "LIMIT", "NOT", "NOTHING", "NOTNULL", "NULL", "ON",
    "OR", "ORDER", "PRIMARY", "REFERENCES", "RETURNING", "SELECT", "SET", "TABLE", "THEN", "TO",
    "TRANSACTION", "UNION", "UNIQUE", "UPDATE", "USING", "VALUES", "WHEN", "WHERE"]

/-- Words that join tables. They are names where no join can stand. -/
def joining : List String :=
  ["CROSS", "FULL", "INNER", "LEFT", "NATURAL", "OUTER", "RIGHT"]

def isOneOf (words : List String) (l : Lexeme) : Bool :=
  words.any fun w => l.isKeyword w

def name? (l : Lexeme) : Option String :=
  match l.token with
  | .name _ s => some s
  | .string s => some s
  | .word s => if s.toUpper ∈ reserved then none else some s
  | _ => none

/-- The other name that a lexeme gives to what stands before it. -/
def alias? (l : Lexeme) : Option String :=
  if l.isOneOf joining then none else l.name?

def isFunctionName (l : Lexeme) : Bool :=
  match l.token with
  | .name _ _ => true
  | .word _ => l.alias?.isSome
  | _ => false

end Lexeme
end Sql
end CacheService
