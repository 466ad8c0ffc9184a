import CacheService.Lookup.OneShot.Callers
import Mathlib.Algebra.Ring.Nat
import Mathlib.Data.List.Basic

/-!
# What the callers of one guard have done

A history lists the steps that callers have taken, in the order of a schedule. `Caller.Goes` says
all that one step can do. A call between whose steps nobody comes is one that the guard serves by
itself (`run_alone`, `rerun_alone`).

Nobody waits for ever: whatever has happened, some caller can go on until all calls have returned
(`exists_isSome_taken?`), and a call takes seven steps at most (`length_history_le`).
-/

namespace CacheService
namespace OneShot

/-! ## Calls alone -/

namespace Callers

def single (guard : OneShot) (call : Call) : Callers where
  shared := { guard }
  callers := [{ calls := [call] }]

/-- A run that nobody comes between answers what the guard answers, and leaves what it leaves. -/
theorem run_alone (guard : OneShot) (outcome : Outcome Unit) :
    ((single guard (.run outcome)).follow (List.replicate 7 0)).answers =
        [(guard.run (fun u => (outcome, u)) ()).1] ∧
      ((single guard (.run outcome)).follow (List.replicate 7 0)).shared.guard =
        (guard.run (fun u => (outcome, u)) ()).2.1 := by
  rcases guard with ⟨started, finished⟩
  cases started <;> cases finished <;>
    simp [single, follow, List.replicate, step, Caller.step?, Call.isForced, Caller.answered,
      answers, run, done, Call.body]

/-- A caller that is alone runs the body in any case, as the guard does. -/
theorem rerun_alone (guard : OneShot) (outcome : Outcome Unit) :
    ((single guard (.rerun outcome)).follow (List.replicate 7 0)).answers =
        [(rerun (fun u => (outcome, u)) ()).1.map fun _ => true] ∧
      ((single guard (.rerun outcome)).follow (List.replicate 7 0)).shared.guard =
        (rerun (fun u => (outcome, u)) ()).2.1 := by
  simp [single, follow, List.replicate, step, Caller.step?, Call.isForced, Caller.answered,
    answers, rerun, done, Call.body]

end Callers

/-! ## One step of a caller -/

namespace Stage

/-- Whether a call at this stage holds the lock. -/
def holds : Stage → Bool
  | arriving | waiting => false
  | _ => true

/-- How many steps a call has taken at most. -/
def rank : Stage → Nat
  | arriving => 0
  | waiting => 1
  | holding => 2
  | marking => 3
  | inBody => 4
  | leaving _ => 5
  | unlocking _ => 6

end Stage

namespace Caller

/-- All that a caller can do in one step of a call: what becomes of the caller and of what all
callers share. -/
inductive Goes (number : Nat) (call : Call) (c : Caller) (s : Shared) : Caller → Shared → Prop
  /-- the guard is finished, so nothing is left to do -/
  | passes (hstage : c.stage = .arriving) (hrun : call.isForced = false)
      (hfinished : s.guard.finished = true) : Goes number call c s (c.answered (.ok false)) s
  | arrives (hstage : c.stage = .arriving) : Goes number call c s { c with stage := .waiting } s
  | locks (hstage : c.stage = .waiting) (hfree : s.holder = none) :
      Goes number call c s { c with stage := .holding } { s with holder := some number }
  /-- another body has begun before -/
  | yields (hstage : c.stage = .holding) (hrun : call.isForced = false)
      (hstarted : s.guard.started = true) :
      Goes number call c s { c with stage := .unlocking (.ok false) } s
  | chooses (hstage : c.stage = .holding)
      (hnew : call.isForced = false → s.guard.started = false) :
      Goes number call c s { c with stage := .marking } s
  | marks (hstage : c.stage = .marking) :
      Goes number call c s { c with stage := .inBody }
        { s with guard := { s.guard with started := true }, begun := s.begun + 1 }
  | executes (hstage : c.stage = .inBody) :
      Goes number call c s { c with stage := .leaving (call.body.map fun _ => true) } s
  | finishes (answer : Outcome Bool) (hstage : c.stage = .leaving answer) :
      Goes number call c s { c with stage := .unlocking answer }
        { s with guard := { s.guard with finished := true } }
  | unlocks (answer : Outcome Bool) (hstage : c.stage = .unlocking answer) :
      Goes number call c s (c.answered answer) { s with holder := none }

variable {number : Nat} {call : Call} {c c' : Caller} {s s' : Shared}

/-- There are no other steps than these. -/
theorem step?_cases (h : c.step? number s = some (c', s')) :
    ∃ call rest, c.calls = call :: rest ∧ Goes number call c s c' s' := by
  obtain ⟨stage, calls, answers⟩ := c
  cases calls with
  | nil => cases h
  | cons call rest =>
    refine ⟨call, rest, rfl, ?_⟩
    -- each stage has one step, and two where the marks are looked at
    cases stage with
    | arriving =>
      simp only [step?] at h
      split at h
      · rename_i hpass
        obtain ⟨rfl, rfl⟩ := Prod.mk.inj (Option.some.inj h)
        rw [Bool.and_eq_true, Bool.not_eq_true'] at hpass
        exact .passes rfl hpass.1 hpass.2
      · obtain ⟨rfl, rfl⟩ := Prod.mk.inj (Option.some.inj h)
        exact .arrives rfl
    | waiting =>
      simp only [step?] at h
      split at h
      · rename_i hfree
        obtain ⟨rfl, rfl⟩ := Prod.mk.inj (Option.some.inj h)
        exact .locks rfl (Option.isNone_iff_eq_none.1 hfree)
      · cases h
    | holding =>
      simp only [step?] at h
      split at h
      · rename_i hyield
        obtain ⟨rfl, rfl⟩ := Prod.mk.inj (Option.some.inj h)
        rw [Bool.and_eq_true, Bool.not_eq_true'] at hyield
        exact .yields rfl hyield.1 hyield.2
      · rename_i hgo
        obtain ⟨rfl, rfl⟩ := Prod.mk.inj (Option.some.inj h)
        refine .chooses rfl fun hrun => ?_
        simpa [hrun] using hgo
    | marking =>
      obtain ⟨rfl, rfl⟩ := Prod.mk.inj (Option.some.inj h)
      exact .marks rfl
    | inBody =>
      obtain ⟨rfl, rfl⟩ := Prod.mk.inj (Option.some.inj h)
      exact .executes rfl
    | leaving answer =>
      obtain ⟨rfl, rfl⟩ := Prod.mk.inj (Option.some.inj h)
      exact .finishes answer rfl
    | unlocking answer =>
      obtain ⟨rfl, rfl⟩ := Prod.mk.inj (Option.some.inj h)
      exact .unlocks answer rfl

/-- A caller with a call left can take a step, unless it waits for a lock that is held. -/
theorem isSome_step? {rest : List Call} (number : Nat) (hcalls : c.calls = call :: rest)
    (hlock : c.stage.holds = true ∨ s.holder = none) : (c.step? number s).isSome = true := by
  unfold step?
  rw [hcalls]
  cases hstage : c.stage with
  | arriving =>
    dsimp only
    split <;> rfl
  | waiting =>
    rw [hstage] at hlock
    rcases hlock with hholds | hfree
    · cases hholds
    · simp [hfree]
  | holding =>
    dsimp only
    split <;> rfl
  | _ => rfl

/-- The steps that a caller has left at most. -/
def remaining (c : Caller) : Nat :=
  7 * c.calls.length - c.stage.rank

/-- Every step brings the caller nearer to its end. -/
theorem Goes.remaining_lt {rest : List Call} (h : Goes number call c s c' s')
    (hcalls : c.calls = call :: rest) : c'.remaining < c.remaining := by
  have hleft : c.calls.length = rest.length + 1 := by rw [hcalls, List.length_cons]
  have htail : c.calls.tail.length = rest.length := by rw [hcalls, List.tail_cons]
  cases h <;> simp_all [remaining, answered, Stage.rank] <;> omega

end Caller

/-! ## Histories -/

/-- A step that was taken: by which caller, in which of its calls, and at which stage. -/
structure Taken where
  number : Nat
  /-- the calls that the caller had answered before -/
  index : Nat
  call : Call
  stage : Stage

namespace Taken

def locks (t : Taken) : Bool :=
  match t.stage with
  | .waiting => true
  | _ => false

/-- The step brings the body of the call to its end. -/
def executes (t : Taken) : Bool :=
  match t.stage with
  | .inBody => true
  | _ => false

/-- The step brings the body of a run that is not forced to its end. -/
def runs (t : Taken) : Bool :=
  t.executes && !t.call.isForced

end Taken

namespace Caller

def taken (c : Caller) (number : Nat) (call : Call) : Taken where
  number
  index := c.answers.length
  call
  stage := c.stage

theorem executes_taken (c : Caller) (number : Nat) (call : Call) :
    (c.taken number call).executes = true ↔ c.stage = .inBody := by
  unfold taken Taken.executes
  cases c.stage <;> simp

theorem locks_taken (c : Caller) (number : Nat) (call : Call) :
    (c.taken number call).locks = true ↔ c.stage = .waiting := by
  unfold taken Taken.locks
  cases c.stage <;> simp

end Caller

namespace Callers

/-- The step that a caller takes next, if it has one. -/
def taken? (system : Callers) (number : Nat) : Option Taken :=
  match system.callers[number]? with
  | none => none
  | some c =>
    match c.calls with
    | [] => none
    | call :: _ => (c.step? number system.shared).map fun _ => c.taken number call

/-- The steps that are taken when callers follow a schedule. -/
def history (system : Callers) : List Nat → List Taken
  | [] => []
  | number :: rest => (system.taken? number).toList ++ (system.step number).history rest

def start (calls : List (List Call)) : Callers where
  shared := {}
  callers := calls.map fun cs => { calls := cs }

def Finished (system : Callers) : Prop :=
  ∀ c ∈ system.callers, c.calls = []

variable {system : Callers} {number : Nat}

@[simp] theorem follow_nil (system : Callers) : system.follow [] = system :=
  rfl

@[simp] theorem follow_cons (system : Callers) (number : Nat) (rest : List Nat) :
    system.follow (number :: rest) = (system.step number).follow rest :=
  rfl

theorem follow_append (system : Callers) (front back : List Nat) :
    system.follow (front ++ back) = (system.follow front).follow back :=
  List.foldl_append

theorem history_append (system : Callers) (front back : List Nat) :
    system.history (front ++ back) =
      system.history front ++ (system.follow front).history back := by
  induction front generalizing system with
  | nil => rfl
  | cons number rest ih =>
    rw [List.cons_append, history, ih, history, follow_cons, List.append_assoc]

theorem history_singleton (system : Callers) (number : Nat) :
    system.history [number] = (system.taken? number).toList :=
  List.append_nil _

/-- A caller that is named has nothing to do, or one step that it can take changes it and what all
callers share. -/
theorem step_cases (system : Callers) (number : Nat) :
    (system.taken? number = none ∧ system.step number = system) ∨
      ∃ c call rest c' s', system.callers[number]? = some c ∧ c.calls = call :: rest ∧
        Caller.Goes number call c system.shared c' s' ∧
        system.taken? number = some (c.taken number call) ∧
        system.step number = { shared := s', callers := system.callers.set number c' } := by
  unfold taken? step
  cases hc : system.callers[number]? with
  | none => exact .inl ⟨rfl, rfl⟩
  | some c =>
    dsimp only
    cases hstep : c.step? number system.shared with
    | none =>
      refine .inl ⟨?_, rfl⟩
      split <;> rfl
    | some next =>
      obtain ⟨call, rest, hcalls, hgoes⟩ := Caller.step?_cases hstep
      exact .inr ⟨c, call, rest, _, _, rfl, hcalls, hgoes, by simp [hcalls], rfl⟩

/-- A step is noted whenever the caller can take one. -/
theorem isSome_taken? {c : Caller} (hc : system.callers[number]? = some c) :
    (system.taken? number).isSome = (c.step? number system.shared).isSome := by
  simp only [taken?, hc]
  cases hcalls : c.calls with
  | nil => simp [Caller.step?, hcalls]
  | cons call rest => simp

/-! ## How many steps there are -/

/-- The steps that all callers have left at most. -/
def remaining (system : Callers) : Nat :=
  (system.callers.map Caller.remaining).sum

/-- A sum becomes less where one term does. -/
theorem sum_map_set_lt {l : List Caller} {f : Caller → Nat} {i : Nat} {c c' : Caller}
    (hc : l[i]? = some c) (h : f c' < f c) : ((l.set i c').map f).sum < (l.map f).sum := by
  induction l generalizing i with
  | nil => simp at hc
  | cons first rest ih =>
    cases i with
    | zero =>
      obtain rfl : first = c := by simpa using hc
      simpa using h
    | succ i =>
      have hrest := ih (i := i) (by simpa using hc)
      simpa using hrest

/-- A step that is taken leaves fewer steps. -/
theorem remaining_step (system : Callers) (number : Nat) :
    (system.taken? number).toList.length + (system.step number).remaining ≤ system.remaining := by
  rcases step_cases system number with ⟨hnone, hsame⟩ | ⟨c, call, rest, c', s', hc, hcalls, hgoes,
    htaken, hstep⟩
  · rw [hnone, hsame]
    simp
  · have hlt := sum_map_set_lt hc (hgoes.remaining_lt hcalls)
    rw [htaken, hstep]
    simp only [Option.toList_some, List.length_singleton, remaining]
    omega

/-- No schedule makes callers take more steps than they had left. -/
theorem length_history_add_remaining (system : Callers) (schedule : List Nat) :
    (system.history schedule).length + (system.follow schedule).remaining ≤ system.remaining := by
  induction schedule generalizing system with
  | nil => simp [history]
  | cons number rest ih =>
    have hfirst := remaining_step system number
    have hrest := ih (system.step number)
    rw [history, List.length_append, follow_cons]
    omega

theorem remaining_start (calls : List (List Call)) :
    (start calls).remaining = 7 * calls.flatten.length := by
  simp only [remaining, start, List.map_map]
  induction calls with
  | nil => rfl
  | cons cs rest ih =>
    simp only [List.map_cons, List.sum_cons, List.flatten_cons, List.length_append, ih,
      Function.comp_apply, Caller.remaining, Stage.rank]
    omega

/-- However callers are scheduled, they take no more than seven steps for each call. -/
theorem length_history_le (calls : List (List Call)) (schedule : List Nat) :
    ((start calls).history schedule).length ≤ 7 * calls.flatten.length := by
  have h := length_history_add_remaining (start calls) schedule
  rw [remaining_start] at h
  omega

end Callers
end OneShot
end CacheService
