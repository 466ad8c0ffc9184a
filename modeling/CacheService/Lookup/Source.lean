import CacheService.Lookup.Interpreter

/-!
# Sources of lookup tables

What a lookup supplies: its name, an interpreter, the statements to run, and two hooks around the
initial load. Calls are counted from one: those of each hook, any of which may fail, and those that
ask for a statement. A `Provider` may answer each call in its own way. A `Source` is one whose
statements are always the same.
-/

namespace CacheService

/-- What a handler asks of a lookup, call by call. -/
structure Provider (α : Type) where
  name : String
  interpreter : Interpreter α
  /-- the statement that answers all rows -/
  fullQuery : Nat → Option String
  /-- the statement that answers the rows to start with -/
  seedQuery : Nat → Option String
  /-- the statement that answers the rows of one key -/
  addQuery : Nat → Key → String
  /-- the failure of that call of the hook before the load, if it fails -/
  before : Nat → Option CacheError
  /-- the failure of that call of the hook after the load, if it fails -/
  after : Nat → Option CacheError

structure Source (α : Type) where
  name : String
  interpreter : Interpreter α
  /-- the statement that answers all rows -/
  fullQuery : Option String := none
  /-- the statement that answers the rows to start with -/
  seedQuery : Option String := none
  /-- the statement that answers the rows of one key -/
  addQuery : Key → String
  /-- the failure of that call of the hook before the load, if it fails -/
  before : Nat → Option CacheError := fun _ => none
  /-- the failure of that call of the hook after the load, if it fails -/
  after : Nat → Option CacheError := fun _ => none

/-- The statements are the same whenever they are asked for. -/
def Source.provider {α : Type} (source : Source α) : Provider α where
  name := source.name
  interpreter := source.interpreter
  fullQuery _ := source.fullQuery
  seedQuery _ := source.seedQuery
  addQuery _ := source.addQuery
  before := source.before
  after := source.after

instance {α : Type} : Coe (Source α) (Provider α) :=
  ⟨Source.provider⟩

inductive Policy where
  /-- first some rows or none, then the rows of each key that is missed -/
  | lazy
  /-- all rows at once -/
  | full
  deriving DecidableEq, Repr

namespace Policy

def title : Policy → String
  | lazy => "Lazy"
  | full => "Full"

end Policy
end CacheService
