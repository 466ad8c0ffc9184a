import CacheService.Expiring.Store

/-!
# Clocks and periodic sweeps

A clock that only moves when it is told to, and a task that sweeps a store at regular intervals of
its own seconds.
-/

namespace CacheService

/-- A clock that shows milliseconds in 64 bits and wraps around. -/
structure ManualClock where
  now : UInt64

namespace ManualClock

def advance (c : ManualClock) (millis : Nat) : ManualClock :=
  ⟨c.now + UInt64.ofNat millis⟩

end ManualClock

/-- A task that sweeps every so many seconds. -/
structure Sweeper where
  interval : Nat
  interval_pos : 0 < interval
  /-- seconds since the last sweep or the start -/
  elapsed : Nat := 0

namespace Sweeper

def new (interval : Nat) : Sweeper where
  interval := max interval 1
  interval_pos := Nat.le_max_right interval 1

/-- A second passes. Answers whether it is time to sweep. -/
def second (t : Sweeper) : Bool × Sweeper :=
  if t.elapsed + 1 < t.interval then (false, { t with elapsed := t.elapsed + 1 })
  else (true, { t with elapsed := 0 })

variable {κ α : Type} [Ord κ] [Std.TransOrd κ]

def run (t : Sweeper) (now : UInt64) (s : ObjectStore κ α) : Nat → Sweeper × ObjectStore κ α
  | 0 => (t, s)
  | n + 1 =>
    let (due, t) := t.second
    t.run now (if due then (s.clean now).2 else s) n

end Sweeper
end CacheService
