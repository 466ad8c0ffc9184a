import CacheService.Lookup.Key

/-!
# Interpreters

How the rows of a query become entries of a table: each row one entry, or each run of consecutive
rows with one group key one entry.
-/

namespace CacheService

/-- A way to make entries of rows. Making no entry is possible, and the load decides what that
means. -/
inductive Interpreter (α : Type) where
  /-- one entry of each row -/
  | perRow (name : String) (entry : Row → Outcome (Option (Entry α)))
  /-- one entry of each run of rows with equal group keys -/
  | perRun (name : String) (groupKey : Row → Outcome Key)
      (combine : List Row → Outcome (Option (Entry α)))

namespace Interpreter

variable {α : Type}

def name : Interpreter α → String
  | perRow name _ => name
  | perRun name _ _ => name

def isPerRun : Interpreter α → Bool
  | perRow .. => false
  | perRun .. => true

end Interpreter
end CacheService
