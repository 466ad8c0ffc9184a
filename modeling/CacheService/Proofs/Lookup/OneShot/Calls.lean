import CacheService.Proofs.Lookup.OneShot.History

/-!
# What a caller of a guard has been told

The answers of a caller and the stage of its call in progress, against the history of all callers.
An answer is that of the body, which the call has executed once, or it says that the call has left
its body alone (`Settled`). `Caller.Tracks` is kept by every step, of the caller itself and of the
others.
-/

namespace CacheService
namespace OneShot

variable {h : List Taken} {t : Taken} {number index : Nat} {call : Call} {answer : Outcome Bool}

/-! ## Executions -/

/-- How often a call has brought its body to an end. -/
def executions (h : List Taken) (number index : Nat) : Nat :=
  h.countP fun t => t.executes && t.number == number && t.index == index

/-- The history has a body that has come to its end. -/
def Executed (h : List Taken) : Prop :=
  ∃ t ∈ h, t.executes = true

theorem Executed.concat (hdone : Executed h) (t : Taken) : Executed (h ++ [t]) := by
  obtain ⟨e, hmem, hexecutes⟩ := hdone
  exact ⟨e, List.mem_append_left _ hmem, hexecutes⟩

theorem executed_concat_self (h : List Taken) (hexecutes : t.executes = true) :
    Executed (h ++ [t]) :=
  ⟨t, List.mem_append_right _ List.mem_cons_self, hexecutes⟩

theorem executed_of_executions {n : Nat} (hone : executions h number index = n + 1) :
    Executed h := by
  have hpos : 0 < executions h number index := by omega
  obtain ⟨t, hmem, hcounts⟩ := List.countP_pos_iff.1 hpos
  simp only [Bool.and_eq_true] at hcounts
  exact ⟨t, hmem, hcounts.1.1⟩

/-- A step that ends no body, or the body of another call, does not count for the call. -/
theorem executions_concat_of_not (h : List Taken)
    (hnot : t.executes = true → t.number = number → t.index ≠ index) :
    executions (h ++ [t]) number index = executions h number index := by
  have hfalse : (t.executes && t.number == number && t.index == index) = false := by
    rw [← Bool.not_eq_true]
    intro hall
    simp only [Bool.and_eq_true, beq_iff_eq] at hall
    exact hnot hall.1.1 hall.1.2 hall.2
  simp [executions, List.countP_append, hfalse]

theorem executions_concat_self (h : List Taken) (hexecutes : t.executes = true) :
    executions (h ++ [t]) t.number t.index = executions h t.number t.index + 1 := by
  simp [executions, List.countP_append, hexecutes]

/-- What an answer says about its call. It is that of the body, which the call has executed once; or
the call is a run that has left its body alone, because a body had come to its end before. -/
def Settled (h : List Taken) (number index : Nat) (call : Call) (answer : Outcome Bool) : Prop :=
  (answer = call.body.map (fun _ => true) ∧ executions h number index = 1) ∨
    (answer = .ok false ∧ call.isForced = false ∧ executions h number index = 0 ∧ Executed h)

/-- What an answer says about its call stays right, whatever other calls do. -/
theorem Settled.concat (hsettled : Settled h number index call answer)
    (hnot : t.executes = true → t.number = number → t.index ≠ index) :
    Settled (h ++ [t]) number index call answer := by
  rcases hsettled with ⟨hanswer, hone⟩ | ⟨hanswer, hrun, hnone, hdone⟩
  · exact .inl ⟨hanswer, (executions_concat_of_not h hnot).trans hone⟩
  · exact .inr ⟨hanswer, hrun, (executions_concat_of_not h hnot).trans hnone, hdone.concat t⟩

theorem Settled.executions_le_one (hsettled : Settled h number index call answer) :
    executions h number index ≤ 1 := by
  rcases hsettled with ⟨-, hone⟩ | ⟨-, -, hnone, -⟩ <;> omega

/-! ## One caller -/

/-- What a stage says about the history and the marks. -/
def Stage.Fits (h : List Taken) (s : Shared) (number index : Nat) (call : Call) : Stage → Prop
  | .arriving | .waiting | .holding => executions h number index = 0
  | .marking =>
    executions h number index = 0 ∧ (call.isForced = false → s.guard.started = false)
  | .inBody =>
    executions h number index = 0 ∧ s.guard.started = true ∧
      (call.isForced = false → ¬ Executed h)
  | .leaving answer =>
    executions h number index = 1 ∧ answer = call.body.map fun _ => true
  | .unlocking answer => Settled h number index call answer

theorem Stage.Fits.executions_le_one {stage : Stage} {s : Shared}
    (hfits : stage.Fits h s number index call) : executions h number index ≤ 1 := by
  cases stage with
  | unlocking answer => exact Settled.executions_le_one hfits
  | leaving answer => exact Nat.le_of_eq hfits.1
  | marking => exact Nat.le_of_lt (Nat.lt_one_iff.2 hfits.1)
  | inBody => exact Nat.le_of_lt (Nat.lt_one_iff.2 hfits.1)
  | arriving => exact Nat.le_of_lt (Nat.lt_one_iff.2 hfits)
  | waiting => exact Nat.le_of_lt (Nat.lt_one_iff.2 hfits)
  | holding => exact Nat.le_of_lt (Nat.lt_one_iff.2 hfits)

/-- A step of another caller changes nothing for a stage, if it leaves the marks alone and executes
no body while this stage holds the lock. -/
theorem Stage.Fits.concat {stage : Stage} {s s' : Shared} (hfits : stage.Fits h s number index call)
    (hother : t.number ≠ number)
    (hquiet : stage.holds = true → s'.guard = s.guard ∧ t.executes = false) :
    stage.Fits (h ++ [t]) s' number index call := by
  have hnot : t.executes = true → t.number = number → t.index ≠ index :=
    fun _ hsame => absurd hsame hother
  have hcount := executions_concat_of_not h hnot
  cases stage with
  | arriving => exact hcount.trans hfits
  | waiting => exact hcount.trans hfits
  | holding => exact hcount.trans hfits
  | marking =>
    obtain ⟨hguard, -⟩ := hquiet rfl
    refine ⟨hcount.trans hfits.1, ?_⟩
    rw [hguard]
    exact hfits.2
  | inBody =>
    obtain ⟨hguard, hquiet⟩ := hquiet rfl
    refine ⟨hcount.trans hfits.1, ?_, ?_⟩
    · rw [hguard]
      exact hfits.2.1
    · rintro hrun ⟨e, hmem, hexecutes⟩
      rcases List.mem_append.1 hmem with hold | hnew
      · exact hfits.2.2 hrun ⟨e, hold, hexecutes⟩
      · rw [List.mem_singleton.1 hnew, hquiet] at hexecutes
        cases hexecutes
  | leaving answer => exact ⟨hcount.trans hfits.1, hfits.2⟩
  | unlocking answer => exact Settled.concat hfits hnot

namespace Caller

/-- A step that ends no body leaves it open whether one has come to its end. -/
theorem executed_of_taken {c : Caller} (hstage : c.stage ≠ .inBody)
    (hdone : Executed (h ++ [c.taken number call])) : Executed h := by
  obtain ⟨e, hmem, hexecutes⟩ := hdone
  rcases List.mem_append.1 hmem with hold | hnew
  · exact ⟨e, hold, hexecutes⟩
  · rw [List.mem_singleton.1 hnew] at hexecutes
    exact absurd ((executes_taken c number call).1 hexecutes) hstage

/-- A caller between its calls `cs`, some of which it has answered as the history tells. -/
structure Tracks (h : List Taken) (s : Shared) (number : Nat) (cs : List Call) (c : Caller) :
    Prop where
  calls : c.calls = cs.drop c.answers.length
  answered : ∀ index answer, c.answers[index]? = some answer →
    ∃ call, cs[index]? = some call ∧ Settled h number index call answer
  current : ∀ call, cs[c.answers.length]? = some call →
    c.stage.Fits h s number c.answers.length call
  future : ∀ index, c.answers.length < index → executions h number index = 0
  idle : c.calls = [] → c.stage = .arriving

namespace Tracks

variable {s s' : Shared} {cs rest : List Call} {c c' : Caller}

theorem start (number : Nat) (cs : List Call) : Tracks [] {} number cs { calls := cs } where
  calls := rfl
  answered := nofun
  current := fun _ _ => rfl
  future := fun _ _ => rfl
  idle := fun _ => rfl

/-- The call in progress is the first that was not answered. -/
theorem call_eq (ht : Tracks h s number cs c) (hcalls : c.calls = call :: rest) :
    cs[c.answers.length]? = some call := by
  have hfirst : (cs.drop c.answers.length)[0]? = some call := by
    rw [← ht.calls, hcalls]
    rfl
  simpa using hfirst

/-- The answers that were given stay true, whatever anybody does. -/
theorem answered_concat (ht : Tracks h s number cs c)
    (hnot : t.executes = true → t.number = number → c.answers.length ≤ t.index)
    (index : Nat) (answer : Outcome Bool) (hanswer : c.answers[index]? = some answer) :
    ∃ call, cs[index]? = some call ∧ Settled (h ++ [t]) number index call answer := by
  obtain ⟨call, hcall, hsettled⟩ := ht.answered index answer hanswer
  refine ⟨call, hcall, hsettled.concat ?_⟩
  intro hexecutes hsame
  have hle := hnot hexecutes hsame
  have hlt := (List.getElem?_eq_some_iff.1 hanswer).1
  omega

/-- A step of another caller. -/
theorem concat (ht : Tracks h s number cs c) (hother : t.number ≠ number)
    (hquiet : c.stage.holds = true → s'.guard = s.guard ∧ t.executes = false) :
    Tracks (h ++ [t]) s' number cs c where
  calls := ht.calls
  answered := ht.answered_concat fun _ hsame => absurd hsame hother
  current := fun call hcall => (ht.current call hcall).concat hother hquiet
  future := by
    intro index hlt
    rw [executions_concat_of_not h fun _ hsame => absurd hsame hother]
    exact ht.future index hlt
  idle := ht.idle

/-- A step that leaves the call in progress. -/
theorem stay (ht : Tracks h s number cs c) (hcalls : c.calls = call :: rest) {stage : Stage}
    (hfits : stage.Fits (h ++ [c.taken number call]) s' number
      c.answers.length call) :
    Tracks (h ++ [c.taken number call]) s' number cs
      { c with stage } where
  calls := ht.calls
  answered := ht.answered_concat fun _ _ => Nat.le_refl _
  current := by
    intro other hother
    rw [ht.call_eq hcalls] at hother
    rwa [← Option.some.inj hother]
  future := by
    intro index hlt
    rw [executions_concat_of_not h fun _ _ => Nat.ne_of_lt hlt]
    exact ht.future index hlt
  idle := by
    intro hnone
    rw [hcalls] at hnone
    cases hnone

/-- But for the end of a body, a step leaves the executions of its call as they are. -/
theorem executions_taken (hstage : c.stage ≠ .inBody) (index : Nat) :
    executions (h ++ [c.taken number call]) number index = executions h number index := by
  apply executions_concat_of_not
  intro hexecutes
  exact absurd ((executes_taken c number call).1 hexecutes) hstage

/-- A step that answers the call in progress. -/
theorem returns (ht : Tracks h s number cs c) (hcalls : c.calls = call :: rest)
    (hstage : c.stage ≠ .inBody) (hsettled : Settled h number c.answers.length call answer) :
    Tracks (h ++ [c.taken number call]) s' number cs (c.answered answer) := by
  have hlength : (c.answered answer).answers.length = c.answers.length + 1 := by
    simp [Caller.answered]
  refine ⟨?_, ?_, ?_, ?_, fun _ => rfl⟩
  · rw [hlength, ← List.tail_drop, ← ht.calls]
    rfl
  · intro index given hgiven
    rcases Nat.lt_or_ge index c.answers.length with hlt | hge
    · apply ht.answered_concat (fun _ _ => Nat.le_refl _) index given
      rwa [Caller.answered, List.getElem?_append_left hlt] at hgiven
    · -- the answer that is given now
      have hindex := (List.getElem?_eq_some_iff.1 hgiven).1
      rw [hlength] at hindex
      obtain rfl : index = c.answers.length := by omega
      have hnow : answer = given := by simpa [Caller.answered] using hgiven
      rw [← hnow]
      refine ⟨call, ht.call_eq hcalls, hsettled.concat ?_⟩
      intro hexecutes
      exact absurd ((executes_taken c number call).1 hexecutes) hstage
  · intro other hother
    rw [hlength]
    exact (executions_taken hstage _).trans (ht.future _ (Nat.lt_succ_self _))
  · intro index hlt
    rw [hlength] at hlt
    exact (executions_taken hstage _).trans (ht.future _ (by omega))

/-- A step of the caller itself, if the marks are as the history tells. -/
theorem goes (ht : Tracks h s number cs c) (hcalls : c.calls = call :: rest)
    (hgoes : Goes number call c s c' s')
    (hunmarked : s.guard.started = false → ¬ Executed h)
    (hbegun : c.stage = .holding → s.guard.started = true → Executed h)
    (hfinished : s.guard.finished = true → Executed h) :
    Tracks (h ++ [c.taken number call]) s' number cs c' := by
  have hfits := ht.current call (ht.call_eq hcalls)
  cases hgoes with
  | passes hstage hrun hmark =>
    rw [hstage] at hfits
    exact ht.returns hcalls (by simp [hstage]) (.inr ⟨rfl, hrun, hfits, hfinished hmark⟩)
  | arrives hstage =>
    rw [hstage] at hfits
    exact ht.stay hcalls ((executions_taken (by simp [hstage]) _).trans hfits)
  | locks hstage hfree =>
    rw [hstage] at hfits
    exact ht.stay hcalls ((executions_taken (by simp [hstage]) _).trans hfits)
  | yields hstage hrun hstarted =>
    have hdone := hbegun hstage hstarted
    rw [hstage] at hfits
    apply ht.stay hcalls
    exact .inr ⟨rfl, hrun, (executions_taken (by simp [hstage]) _).trans hfits, hdone.concat _⟩
  | chooses hstage hnew =>
    rw [hstage] at hfits
    exact ht.stay hcalls ⟨(executions_taken (by simp [hstage]) _).trans hfits, hnew⟩
  | marks hstage =>
    rw [hstage] at hfits
    refine ht.stay hcalls ⟨(executions_taken (by simp [hstage]) _).trans hfits.1, rfl, ?_⟩
    rintro hrun hdone
    exact hunmarked (hfits.2 hrun) (executed_of_taken (by simp [hstage]) hdone)
  | executes hstage =>
    rw [hstage] at hfits
    have hone : executions (h ++ [c.taken number call]) number c.answers.length =
        executions h number c.answers.length + 1 :=
      executions_concat_self h ((executes_taken c number call).2 hstage)
    exact ht.stay hcalls ⟨by rw [hone, hfits.1], rfl⟩
  | finishes answer hstage =>
    rw [hstage] at hfits
    apply ht.stay hcalls
    exact .inl ⟨hfits.2, (executions_taken (by simp [hstage]) _).trans hfits.1⟩
  | unlocks answer hstage =>
    rw [hstage] at hfits
    exact ht.returns hcalls (by simp [hstage]) hfits

end Tracks
end Caller

end OneShot
end CacheService
