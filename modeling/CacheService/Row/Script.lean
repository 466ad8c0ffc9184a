import CacheService.Row.QueryService
import Std.Data.ExtTreeMap

/-!
# Scripted query services

A service that answers each statement as a script says and knows no other statement. It does not
change by being asked.
-/

namespace CacheService

inductive Script.Answer where
  /-- rows, with the number of a read that fails and whether closing fails -/
  | rows (rows : List Row) (failAt : Option Nat) (closeFails : Bool)
  /-- the statement is refused -/
  | refused (message : String)

structure Script where
  answers : Std.ExtTreeMap String Script.Answer := ∅

namespace Script

def cursor (sql : String) (rows : List Row) (failAt : Option Nat) (closeFails : Bool) :
    Cursor where
  rows := rows
  failure := fun read => if failAt = some read then some (.database sql "cursor failed") else none
  closing := if closeFails then some (.database sql "close failed") else none

def set (s : Script) (sql : String) (answer : Answer) : Script :=
  ⟨s.answers.insert sql answer⟩

def answer (sql : String) (s : Script) : Outcome Cursor × Script :=
  match s.answers[sql]? with
  | some (.rows rows failAt closeFails) => (.ok (cursor sql rows failAt closeFails), s)
  | some (.refused message) => (.error (.database sql message), s)
  | none => (.error (.database sql "unknown query"), s)

def service : QueryService Script where
  answer := answer

end Script
end CacheService
