import CacheService.Lookup.Handler
import CacheService.Lookup.Sink

/-!
# Dumps

The dump of a whole table: a header with the name, the policy and the number of entries, then one
line for each entry in the order of the keys. How a value is shown is left to its type.
-/

namespace CacheService

namespace Dump

variable {α : Type}

def header (name : String) (policy : Policy) (count : Nat) : String :=
  s!"{name} ({policy.title}, {count} entries)\n"

def line (render : α → String) (e : Key × α) : String :=
  s!"{e.1.display}: {render e.2}\n"

def lines (render : α → String) (name : String) (policy : Policy) (t : KeyTable α) : List String :=
  header name policy t.size :: t.snapshot.map (line render)

end Dump

def Handler.print {σ α : Type} (h : Handler σ α) (render : α → String) (sink : Sink)
    (s : Handler.State σ α) : Outcome Unit × Sink :=
  sink.print (Dump.lines render h.source.name h.policy s.table)

end CacheService
