import CacheService.Lookup.OneShot

/-!
# Callers of a one-shot guard

Several callers share one guard, a lock and the bodies that they want to run. A call goes through
small steps: a glance at the finished mark without the lock, taking the lock, a look at the started
mark, marking, the body, marking again, letting go of the lock. Any caller may take the next step.
-/

namespace CacheService
namespace OneShot

/-- A call, with the outcome that its body will have if it runs. -/
inductive Call where
  | run (body : Outcome Unit)
  | rerun (body : Outcome Unit)

namespace Call

def body : Call → Outcome Unit
  | run b => b
  | rerun b => b

def isForced : Call → Bool
  | run _ => false
  | rerun _ => true

end Call

inductive Stage where
  /-- nothing was done yet -/
  | arriving
  /-- the guard was not finished, so the lock is wanted -/
  | waiting
  /-- the lock is held -/
  | holding
  /-- the body is to run, and the guard is not marked yet -/
  | marking
  /-- the body runs -/
  | inBody
  /-- the body has returned -/
  | leaving (answer : Outcome Bool)
  /-- only the lock is left to give back -/
  | unlocking (answer : Outcome Bool)

structure Shared where
  guard : OneShot := {}
  /-- the caller that holds the lock -/
  holder : Option Nat := none
  /-- how many bodies have begun -/
  begun : Nat := 0

/-- A caller: its call in progress, the calls after that, and the answers it has had. -/
structure Caller where
  stage : Stage := .arriving
  calls : List Call
  answers : List (Outcome Bool) := []

namespace Caller

def answered (c : Caller) (answer : Outcome Bool) : Caller where
  calls := c.calls.tail
  answers := c.answers ++ [answer]

/-- One step of the caller with the given number. There is none for a caller that has no call left
or that waits for the lock while another holds it. -/
def step? (number : Nat) (c : Caller) (s : Shared) : Option (Caller × Shared) :=
  match c.calls with
  | [] => none
  | call :: _ =>
    match c.stage with
    | .arriving =>
      if !call.isForced && s.guard.finished then some (c.answered (.ok false), s)
      else some ({ c with stage := .waiting }, s)
    | .waiting =>
      if s.holder.isNone then some ({ c with stage := .holding }, { s with holder := some number })
      else none
    | .holding =>
      if !call.isForced && s.guard.started then
        some ({ c with stage := .unlocking (.ok false) }, s)
      else some ({ c with stage := .marking }, s)
    | .marking =>
      some ({ c with stage := .inBody },
        { s with guard := { s.guard with started := true }, begun := s.begun + 1 })
    | .inBody => some ({ c with stage := .leaving (call.body.map fun _ => true) }, s)
    | .leaving answer =>
      some ({ c with stage := .unlocking answer },
        { s with guard := { s.guard with finished := true } })
    | .unlocking answer => some (c.answered answer, { s with holder := none })

end Caller

structure Callers where
  shared : Shared
  callers : List Caller

namespace Callers

def step (system : Callers) (number : Nat) : Callers :=
  match system.callers[number]? with
  | none => system
  | some c =>
    match c.step? number system.shared with
    | none => system
    | some (c, s) => { shared := s, callers := system.callers.set number c }

def follow (system : Callers) (schedule : List Nat) : Callers :=
  schedule.foldl step system

def roundRobin (rounds : Nat) (system : Callers) : Callers :=
  system.follow (List.replicate rounds (List.range system.callers.length)).flatten

def answers (system : Callers) : List (Outcome Bool) :=
  system.callers.flatMap Caller.answers

/-- The given number of callers run one body each at the same time, and all return. A call has eight
steps at most, so eight rounds for each caller are enough. -/
def together (guard : OneShot) (count : Nat) (body : Outcome Unit) : Callers :=
  roundRobin (8 * count)
    { shared := { guard }, callers := List.replicate count { calls := [.run body] } }

end Callers
end OneShot
end CacheService
