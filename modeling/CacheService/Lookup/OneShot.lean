import CacheService.Error

/-!
# One-shot guard

A guard in front of a body that is to run once. The guard is marked as started before the body runs
and as finished after it, whether the body succeeds or not, so a failed body is not repeated. A
forced run is not held back by the guard.
-/

namespace CacheService

/-- The two marks of a guard. -/
structure OneShot where
  started : Bool := false
  finished : Bool := false
  deriving DecidableEq, Repr, Inhabited

namespace OneShot

def done : OneShot where
  started := true
  finished := true

variable {σ : Type}

/-- Runs the body unless the guard is marked, and answers whether it ran. -/
def run (guard : OneShot) (body : σ → Outcome Unit × σ) (s : σ) : Outcome Bool × OneShot × σ :=
  if guard.finished || guard.started then (.ok false, guard, s)
  else
    let (outcome, s) := body s
    (outcome.map fun _ => true, done, s)

def rerun (body : σ → Outcome Unit × σ) (s : σ) : Outcome Unit × OneShot × σ :=
  let (outcome, s) := body s
  (outcome, done, s)

end OneShot
end CacheService
