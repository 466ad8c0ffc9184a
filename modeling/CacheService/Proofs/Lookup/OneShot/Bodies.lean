import CacheService.Proofs.Lookup.OneShot.Calls
import Mathlib.Data.List.Induction

/-!
# One body at a time

However the steps of callers are mixed, the guard keeps their bodies apart, lets at most one run
execute its body, and only the one that takes the lock first of all calls (`bodies_guarded`). A
forced run always executes its body. Everybody else is told so only when a body has come to its end.

`Guarded` is what every step preserves. It ties the two marks to the history: before the guard is
marked as started no body has come to its end, and once it is, one has or is under way.
-/

namespace CacheService
namespace OneShot

variable {h : List Taken} {t : Taken} {number index : Nat} {call : Call}

/-! ## The lock -/

namespace Callers

variable {system : Callers} {c c' : Caller} {s' : Shared} {rest : List Call}
  {calls : List (List Call)}

/-- The lock has the holder that is at a stage with the lock, and no other. -/
def Locked (system : Callers) : Prop :=
  ∀ number, system.shared.holder = some number ↔
    ∃ c, system.callers[number]? = some c ∧ c.stage.holds = true

theorem getElem?_set_of_getElem? (hc : system.callers[number]? = some c) (c' : Caller)
    (other : Nat) : (system.callers.set number c')[other]? =
      if other = number then some c' else system.callers[other]? := by
  have hlt := (List.getElem?_eq_some_iff.1 hc).1
  by_cases hother : other = number
  · rw [hother, List.getElem?_set_self hlt, if_pos rfl]
  · rw [List.getElem?_set_ne (Ne.symm hother), if_neg hother]

/-- Two callers at stages with the lock are the same. -/
theorem Locked.unique (hlocked : system.Locked) {other : Nat} {d : Caller}
    (hc : system.callers[number]? = some c) (hholds : c.stage.holds = true)
    (hd : system.callers[other]? = some d) (hholds' : d.stage.holds = true) : other = number := by
  have hcaller := (hlocked number).2 ⟨c, hc, hholds⟩
  have hother := (hlocked other).2 ⟨d, hd, hholds'⟩
  rw [hcaller] at hother
  exact (Option.some.inj hother).symm

/-- What a step does to the lock: nothing, or it takes the lock from nobody, or it gives the lock
back. -/
theorem goes_lock (hgoes : Caller.Goes number call c system.shared c' s') :
    (c'.stage.holds = c.stage.holds ∧ s'.holder = system.shared.holder) ∨
      (c'.stage.holds = true ∧ system.shared.holder = none ∧ s'.holder = some number) ∨
        (c.stage.holds = true ∧ c'.stage.holds = false ∧ s'.holder = none) := by
  cases hgoes <;> simp_all [Stage.holds, Caller.answered]

/-- A step hands the lock on as the stages say. -/
theorem Locked.goes (hlocked : system.Locked) (hc : system.callers[number]? = some c)
    (hgoes : Caller.Goes number call c system.shared c' s') :
    Locked { shared := s', callers := system.callers.set number c' } := by
  intro other
  dsimp only
  rw [getElem?_set_of_getElem? hc]
  rcases goes_lock hgoes with ⟨hsame, hholder⟩ | ⟨hholds, hfree, hholder⟩ | ⟨hheld, hholds, hholder⟩
  · rw [hholder, hlocked other]
    by_cases hother : other = number
    · rw [if_pos hother, hother, hc]
      simp [hsame]
    · rw [if_neg hother]
  · -- nobody held the lock before
    rw [hholder]
    by_cases hother : other = number
    · rw [if_pos hother, hother]
      simp [hholds]
    · rw [if_neg hother]
      refine ⟨fun hsome => absurd (Option.some.inj hsome).symm hother, ?_⟩
      intro hholds'
      rw [← hlocked other, hfree] at hholds'
      cases hholds'
  · rw [hholder]
    by_cases hother : other = number
    · rw [if_pos hother]
      simp [hholds]
    · -- the caller that gives the lock back held it alone
      rw [if_neg hother]
      refine ⟨nofun, ?_⟩
      rintro ⟨d, hd, hholds'⟩
      exact absurd (hlocked.unique hc hheld hd hholds') hother

/-- While another caller holds the lock, a caller does not touch the marks and is in no body. -/
theorem guard_goes_of_held (hlocked : system.Locked) (hc : system.callers[number]? = some c)
    (hgoes : Caller.Goes number call c system.shared c' s') {other : Nat} {d : Caller}
    (hd : system.callers[other]? = some d) (hholds : d.stage.holds = true)
    (hother : other ≠ number) : s'.guard = system.shared.guard ∧ c.stage ≠ .inBody := by
  have hfree : c.stage.holds ≠ true := fun hc' => hother (hlocked.unique hc hc' hd hholds)
  cases hgoes <;> simp_all [Stage.holds]

/-! ## All callers -/

/-- The call of a step that took the lock has yet to execute its body, and no other body has begun
before. -/
def Bound (system : Callers) (e : Taken) : Prop :=
  ∃ c, system.callers[e.number]? = some c ∧ c.answers.length = e.index ∧
    (((c.stage = .holding ∨ c.stage = .marking) ∧ system.shared.guard.started = false) ∨
      c.stage = .inBody)

/-- What the marks, the lock, the callers and the history say about each other at any time. -/
structure Guarded (calls : List (List Call)) (h : List Taken) (system : Callers) : Prop where
  locked : system.Locked
  tracks : ∀ (number : Nat) (c : Caller), system.callers[number]? = some c →
    ∃ cs, calls[number]? = some cs ∧ c.Tracks h system.shared number cs
  taken : ∀ t ∈ h, ∃ cs, calls[t.number]? = some cs ∧ cs[t.index]? = some t.call
  unmarked : system.shared.guard.started = false → ¬ Executed h
  /-- a body has come to its end or is under way -/
  marked : system.shared.guard.started = true →
    Executed h ∨ ∃ (number : Nat) (c : Caller), system.callers[number]? = some c ∧ c.stage = .inBody
  finished : system.shared.guard.finished = true → Executed h
  /-- the lock was taken if somebody holds it or the guard is marked -/
  first : (∃ number, system.shared.holder = some number) ∨ system.shared.guard.started = true →
    ∃ e, h.find? Taken.locks = some e
  /-- the call that took the lock first executes its body -/
  bound : ∀ e, h.find? Taken.locks = some e →
    system.Bound e ∨ ∃ t ∈ h, t.executes = true ∧ t.number = e.number ∧ t.index = e.index
  /-- its execution is the first, and all others are forced -/
  ordered : ∀ t later, h.filter Taken.executes = t :: later →
    (∃ e, h.find? Taken.locks = some e ∧ t.number = e.number ∧ t.index = e.index) ∧
      ∀ u ∈ later, u.call.isForced = true

theorem guarded_start (calls : List (List Call)) : Guarded calls [] (start calls) := by
  have hnone : ¬ Executed [] := by
    rintro ⟨t, hmem, -⟩
    cases hmem
  have hmarks : (start calls).shared.guard = {} ∧ (start calls).shared.holder = none := ⟨rfl, rfl⟩
  have hcallers : ∀ (number : Nat) (c : Caller), (start calls).callers[number]? = some c →
      ∃ cs, calls[number]? = some cs ∧ c = { calls := cs } := by
    intro number c hc
    simp only [start, List.getElem?_map, Option.map_eq_some_iff] at hc
    obtain ⟨cs, hcs, hc⟩ := hc
    exact ⟨cs, hcs, hc.symm⟩
  refine ⟨?_, ?_, by simp, fun _ => hnone, ?_, ?_, ?_, by simp, by simp⟩
  · intro number
    rw [hmarks.2]
    refine ⟨by simp, ?_⟩
    rintro ⟨c, hc, hholds⟩
    obtain ⟨cs, -, rfl⟩ := hcallers number c hc
    cases hholds
  · intro number c hc
    obtain ⟨cs, hcs, rfl⟩ := hcallers number c hc
    exact ⟨cs, hcs, .start number cs⟩
  · simp [hmarks.1]
  · simp [hmarks.1]
  · simp [hmarks]

namespace Guarded

/-- The first step that takes the lock stays the first. -/
theorem find?_locks_concat {e : Taken} (he : h.find? Taken.locks = some e) (t : Taken) :
    (h ++ [t]).find? Taken.locks = some e := by
  rw [List.find?_append, he, Option.some_or]

/-- The first body comes to its end in the call that took the lock first. -/
theorem first_of_inBody (hg : Guarded calls h system) (hc : system.callers[number]? = some c)
    (hstage : c.stage = .inBody) (hnone : ¬ Executed h) :
    ∃ e, h.find? Taken.locks = some e ∧ number = e.number ∧ c.answers.length = e.index := by
  have hholds : c.stage.holds = true := by rw [hstage]; rfl
  obtain ⟨e, he⟩ := hg.first (.inl ⟨number, (hg.locked number).2 ⟨c, hc, hholds⟩⟩)
  refine ⟨e, he, ?_⟩
  rcases hg.bound e he with ⟨d, hd, hindex, hbody⟩ | ⟨u, hmem, hexecutes, -⟩
  · have hholds' : d.stage.holds = true := by
      rcases hbody with ⟨hd | hd, -⟩ | hd <;> rw [hd] <;> rfl
    have hsame := hg.locked.unique hc hholds hd hholds'
    rw [hsame, hc] at hd
    rw [← Option.some.inj hd] at hindex
    exact ⟨hsame.symm, hindex⟩
  · exact absurd ⟨u, hmem, hexecutes⟩ hnone

/-- The first body that ends is that of the call which took the lock first, and all later ones are
forced. -/
theorem ordered_concat (hg : Guarded calls h system) (hc : system.callers[number]? = some c)
    (hcalls : c.calls = call :: rest) {t : Taken} {later : List Taken}
    (hfilter : (h ++ [c.taken number call]).filter Taken.executes = t :: later) :
    (∃ e, (h ++ [c.taken number call]).find? Taken.locks = some e ∧
      t.number = e.number ∧ t.index = e.index) ∧ ∀ u ∈ later, u.call.isForced = true := by
  rw [List.filter_append] at hfilter
  by_cases hstage : c.stage = .inBody
  · rw [List.filter_cons_of_pos ((Caller.executes_taken c number call).2 hstage), List.filter_nil]
      at hfilter
    cases hbefore : h.filter Taken.executes with
    | nil =>
      -- the first of all executions
      rw [hbefore] at hfilter
      obtain ⟨rfl, rfl⟩ := List.cons.inj hfilter
      have hnone : ¬ Executed h := by
        rintro ⟨u, hmem, hexecutes⟩
        exact List.filter_eq_nil_iff.1 hbefore u hmem hexecutes
      obtain ⟨e, he, hsame⟩ := hg.first_of_inBody hc hstage hnone
      exact ⟨⟨e, find?_locks_concat he _, hsame⟩, by simp⟩
    | cons u others =>
      rw [hbefore] at hfilter
      obtain ⟨rfl, rfl⟩ := List.cons.inj hfilter
      obtain ⟨⟨e, he, hsame⟩, hforced⟩ := hg.ordered u others hbefore
      refine ⟨⟨e, find?_locks_concat he _, hsame⟩, ?_⟩
      intro v hv
      rcases List.mem_append.1 hv with hold | hnew
      · exact hforced v hold
      · -- a run does not begin its body once another has come to its end
        have hdone : Executed h := by
          have hmem : u ∈ h.filter Taken.executes := by
            rw [hbefore]
            exact List.mem_cons_self
          exact ⟨u, (List.mem_filter.1 hmem).1, (List.mem_filter.1 hmem).2⟩
        obtain ⟨cs, -, htracks⟩ := hg.tracks number c hc
        have hfits := htracks.current call (htracks.call_eq hcalls)
        rw [hstage] at hfits
        rw [List.mem_singleton.1 hnew]
        cases hrun : call.isForced with
        | true => exact hrun
        | false => exact absurd hdone (hfits.2.2 hrun)
  · have hquiet : ¬ (c.taken number call).executes = true :=
      fun hexecutes => hstage ((Caller.executes_taken c number call).1 hexecutes)
    rw [List.filter_cons_of_neg hquiet, List.filter_nil, List.append_nil] at hfilter
    obtain ⟨⟨e, he, hsame⟩, hforced⟩ := hg.ordered t later hfilter
    exact ⟨⟨e, find?_locks_concat he _, hsame⟩, hforced⟩

/-- A call that took the lock first stays on its way to its body, or executes it now. -/
theorem bound_goes (hg : Guarded calls h system) (hc : system.callers[number]? = some c)
    (hgoes : Caller.Goes number call c system.shared c' s') {e : Taken} (he : system.Bound e) :
    Bound { shared := s', callers := system.callers.set number c' } e ∨
      (c.stage = .inBody ∧ number = e.number ∧ c.answers.length = e.index) := by
  obtain ⟨d, hd, hindex, hbody⟩ := he
  by_cases hsame : e.number = number
  · rw [hsame, hc] at hd
    obtain rfl := Option.some.inj hd
    have hset : (system.callers.set number c')[e.number]? = some c' := by
      rw [getElem?_set_of_getElem? hc, if_pos hsame]
    cases hgoes with
    | yields hstage hrun hstarted =>
      -- the guard was not marked when the call took the lock
      simp [hstage, hstarted] at hbody
    | chooses hstage hnew =>
      have hunmarked : system.shared.guard.started = false := by simpa [hstage] using hbody
      exact .inl ⟨_, hset, hindex, .inl ⟨.inr rfl, hunmarked⟩⟩
    | marks hstage => exact .inl ⟨_, hset, hindex, .inr rfl⟩
    | executes hstage => exact .inr ⟨hstage, hsame.symm, hindex⟩
    | passes hstage hrun hmark => simp [hstage] at hbody
    | arrives hstage => simp [hstage] at hbody
    | locks hstage hfree => simp [hstage] at hbody
    | finishes answer hstage => simp [hstage] at hbody
    | unlocks answer hstage => simp [hstage] at hbody
  · -- another caller holds the lock, so the marks stay as they are
    have hholds : d.stage.holds = true := by
      rcases hbody with ⟨hd | hd, -⟩ | hd <;> rw [hd] <;> rfl
    have hset : (system.callers.set number c')[e.number]? = some d := by
      rw [getElem?_set_of_getElem? hc, if_neg hsame, hd]
    have hguard := guard_goes_of_held hg.locked hc hgoes hd hholds hsame
    refine .inl ⟨d, hset, hindex, ?_⟩
    rwa [hguard.1]

/-- While a caller is at a stage with the lock but in no body, the guard is marked only if a body
has come to its end. -/
theorem executed_of_marked (hg : Guarded calls h system) (hc : system.callers[number]? = some c)
    (hholds : c.stage.holds = true) (hstage : c.stage ≠ .inBody)
    (hstarted : system.shared.guard.started = true) : Executed h := by
  rcases hg.marked hstarted with hdone | ⟨other, d, hd, hbody⟩
  · exact hdone
  · have hsame := hg.locked.unique hc hholds hd (by rw [hbody]; rfl)
    rw [hsame, hc] at hd
    rw [← Option.some.inj hd] at hbody
    exact absurd hbody hstage

/-- What the stage of a caller with a call in progress says. -/
theorem fits (hg : Guarded calls h system) (hc : system.callers[number]? = some c)
    (hcalls : c.calls = call :: rest) :
    c.stage.Fits h system.shared number c.answers.length call := by
  obtain ⟨cs, -, htracks⟩ := hg.tracks number c hc
  exact htracks.current call (htracks.call_eq hcalls)

section Step

variable (hg : Guarded calls h system) (hc : system.callers[number]? = some c)
  (hgoes : Caller.Goes number call c system.shared c' s')

include hg hc hgoes

/-- The guard is marked only if a body has ended or is under way. -/
theorem marked_goes (hmarked : s'.guard.started = true) :
    Executed (h ++ [c.taken number call]) ∨ ∃ (other : Nat) (d : Caller),
      (system.callers.set number c')[other]? = some d ∧ d.stage = .inBody := by
  by_cases hnow : c'.stage = .inBody
  · exact .inr ⟨number, c', by rw [getElem?_set_of_getElem? hc, if_pos rfl], hnow⟩
  · have hbefore : system.shared.guard.started = true := by
      cases hgoes <;> simp_all
    rcases hg.marked hbefore with hdone | ⟨other, d, hd, hbody⟩
    · exact .inl (hdone.concat _)
    · by_cases hother : other = number
      · rw [hother, hc] at hd
        rw [← Option.some.inj hd] at hbody
        exact .inl (executed_concat_self h ((Caller.executes_taken c number call).2 hbody))
      · exact .inr ⟨other, d, by rw [getElem?_set_of_getElem? hc, if_neg hother, hd], hbody⟩

/-- If the lock is held or the guard is marked, some step has taken the lock. -/
theorem first_goes
    (hheld : (∃ other, s'.holder = some other) ∨ s'.guard.started = true) :
    ∃ e, (h ++ [c.taken number call]).find? Taken.locks = some e := by
  rw [← Option.isSome_iff_exists, List.find?_isSome]
  by_cases hstage : c.stage = .waiting
  · exact ⟨_, List.mem_append_right _ List.mem_cons_self,
      (Caller.locks_taken c number call).2 hstage⟩
  · have hbefore : (∃ other, system.shared.holder = some other) ∨
        system.shared.guard.started = true := by
      have hholder := (hg.locked number).2
      cases hgoes with
      | marks hmark => exact .inl ⟨number, hholder ⟨c, hc, by rw [hmark]; rfl⟩⟩
      | unlocks answer hleave => exact .inl ⟨number, hholder ⟨c, hc, by rw [hleave]; rfl⟩⟩
      | locks hwait hfree => exact absurd hwait hstage
      | _ => exact hheld
    obtain ⟨e, he⟩ := hg.first hbefore
    exact ⟨e, List.mem_append_left _ (List.mem_of_find?_eq_some he), List.find?_some he⟩

/-- The call that took the lock first has yet to execute its body, or has done so. -/
theorem bound_concat {e : Taken}
    (he : (h ++ [c.taken number call]).find? Taken.locks = some e) :
    Bound { shared := s', callers := system.callers.set number c' } e ∨
      ∃ t ∈ h ++ [c.taken number call], t.executes = true ∧ t.number = e.number ∧
        t.index = e.index := by
  cases hold : h.find? Taken.locks with
  | some e' =>
    rw [find?_locks_concat hold] at he
    obtain rfl := Option.some.inj he
    rcases hg.bound e' hold with hbound | ⟨t, hmem, hdone⟩
    · rcases bound_goes hg hc hgoes hbound with hbound | ⟨hstage, hsame⟩
      · exact .inl hbound
      · exact .inr ⟨_, List.mem_append_right _ List.mem_cons_self,
          (Caller.executes_taken c number call).2 hstage, hsame⟩
    · exact .inr ⟨t, List.mem_append_left _ hmem, hdone⟩
  | none =>
    -- the lock is taken for the first time, so the guard is not marked
    have hunmarked : system.shared.guard.started = false := by
      rw [← Bool.not_eq_true]
      intro hstarted
      obtain ⟨e', he'⟩ := hg.first (.inr hstarted)
      rw [hold] at he'
      cases he'
    rw [List.find?_append, hold, Option.none_or] at he
    have hlocks := List.find?_some he
    obtain rfl := List.mem_singleton.1 (List.mem_of_find?_eq_some he)
    rw [Caller.locks_taken] at hlocks
    cases hgoes with
    | locks hstage hfree =>
      refine .inl ⟨{ c with stage := .holding }, ?_, rfl, .inl ⟨.inl rfl, hunmarked⟩⟩
      exact (getElem?_set_of_getElem? hc _ _).trans (if_pos rfl)
    | _ => simp_all

variable (hcalls : c.calls = call :: rest)

include hcalls

/-- The caller that takes the step is tracked by what it does, and all others as before. -/
theorem tracks_goes (other : Nat) (d : Caller)
    (hd : (system.callers.set number c')[other]? = some d) :
    ∃ cs, calls[other]? = some cs ∧ d.Tracks (h ++ [c.taken number call]) s' other cs := by
  rw [getElem?_set_of_getElem? hc] at hd
  by_cases hother : other = number
  · rw [if_pos hother] at hd
    obtain rfl := Option.some.inj hd
    rw [hother]
    obtain ⟨cs, hcs, htracks⟩ := hg.tracks number c hc
    refine ⟨cs, hcs, htracks.goes hcalls hgoes hg.unmarked ?_ hg.finished⟩
    intro hstage
    exact hg.executed_of_marked hc (by rw [hstage]; rfl) (by rw [hstage]; nofun)
  · rw [if_neg hother] at hd
    obtain ⟨ds, hds, htracks⟩ := hg.tracks other d hd
    refine ⟨ds, hds, htracks.concat (Ne.symm hother) ?_⟩
    intro hholds
    obtain ⟨hguard, hstage⟩ := guard_goes_of_held hg.locked hc hgoes hd hholds hother
    refine ⟨hguard, ?_⟩
    rw [← Bool.not_eq_true, Caller.executes_taken]
    exact hstage

/-- As long as the guard is not marked, no body has ended. -/
theorem unmarked_goes (hunmarked : s'.guard.started = false) :
    ¬ Executed (h ++ [c.taken number call]) := by
  have hfits := hg.fits hc hcalls
  have hbefore : system.shared.guard.started = false ∧ c.stage ≠ .inBody := by
    cases hgoes with
    | executes hstage =>
      -- whoever is in a body has marked the guard
      rw [hstage] at hfits
      exact absurd (hfits.2.1.symm.trans hunmarked) nofun
    | marks hstage => cases hunmarked
    | _ => exact ⟨hunmarked, by simp_all⟩
  exact fun hdone => hg.unmarked hbefore.1 (Caller.executed_of_taken hbefore.2 hdone)

/-- The second mark stands for a body that has ended. -/
theorem finished_goes (hfinished : s'.guard.finished = true) :
    Executed (h ++ [c.taken number call]) := by
  have hfits := hg.fits hc hcalls
  cases hgoes with
  | finishes answer hstage =>
    rw [hstage] at hfits
    exact (executed_of_executions hfits.1).concat _
  | _ => exact (hg.finished hfinished).concat _

/-- A step keeps what the marks, the lock, the callers and the history say about each other. -/
theorem goes : Guarded calls (h ++ [c.taken number call])
    { shared := s', callers := system.callers.set number c' } where
  locked := hg.locked.goes hc hgoes
  tracks := hg.tracks_goes hc hgoes hcalls
  taken := by
    intro t ht
    rcases List.mem_append.1 ht with hold | hnew
    · exact hg.taken t hold
    · obtain ⟨cs, hcs, htracks⟩ := hg.tracks number c hc
      rw [List.mem_singleton.1 hnew]
      exact ⟨cs, hcs, htracks.call_eq hcalls⟩
  unmarked := hg.unmarked_goes hc hgoes hcalls
  marked := hg.marked_goes hc hgoes
  finished := hg.finished_goes hc hgoes hcalls
  first := hg.first_goes hc hgoes
  bound := fun _ => hg.bound_concat hc hgoes
  ordered := fun _ _ => hg.ordered_concat hc hcalls

end Step

end Guarded

/-! ## All schedules -/

/-- What callers with the given calls have come to on a new guard after a schedule. -/
def after (calls : List (List Call)) (schedule : List Nat) : Callers :=
  (start calls).follow schedule

/-- The steps that they have taken. -/
def steps (calls : List (List Call)) (schedule : List Nat) : List Taken :=
  (start calls).history schedule

/-- Marks, lock, callers and history fit together after every schedule. -/
theorem guarded_after (calls : List (List Call)) (schedule : List Nat) :
    Guarded calls (steps calls schedule) (after calls schedule) := by
  unfold steps after
  induction schedule using List.reverseRecOn with
  | nil => exact guarded_start calls
  | append_singleton front number ih =>
    rw [history_append, history_singleton, follow_append, follow_cons, follow_nil]
    rcases step_cases ((start calls).follow front) number with ⟨hnone, hsame⟩ |
      ⟨c, call, rest, c', s', hc, hcalls, hgoes, htaken, hstep⟩
    · rw [hnone, hsame]
      simpa using ih
    · rw [htaken, hstep]
      exact ih.goes hc hgoes hcalls

theorem length_callers_after (calls : List (List Call)) (schedule : List Nat) :
    (after calls schedule).callers.length = calls.length := by
  have hstep : ∀ (system : Callers) (number : Nat),
      (system.step number).callers.length = system.callers.length := by
    intro system number
    rcases step_cases system number with ⟨-, hsame⟩ | ⟨c, call, rest, c', s', -, -, -, -, hstep⟩
    · rw [hsame]
    · rw [hstep, List.length_set]
  have hfollow : ∀ system : Callers,
      (system.follow schedule).callers.length = system.callers.length := by
    induction schedule with
    | nil => exact fun _ => rfl
    | cons number rest ih => exact fun system => (ih _).trans (hstep system number)
  rw [after, hfollow, start, List.length_map]

/-- A guard that is marked stays marked. -/
theorem started_follow (system : Callers) (schedule : List Nat)
    (hstarted : system.shared.guard.started = true) :
    (system.follow schedule).shared.guard.started = true := by
  induction schedule generalizing system with
  | nil => exact hstarted
  | cons number rest ih =>
    rw [follow_cons]
    apply ih
    rcases step_cases system number with ⟨-, hsame⟩ | ⟨c, call, rest, c', s', -, -, hgoes, -, hstep⟩
    · rwa [hsame]
    · rw [hstep]
      cases hgoes <;> first | rfl | exact hstarted

namespace Guarded

/-- A caller whose call holds the lock has that call still to answer. -/
theorem calls_ne_nil (hg : Guarded calls h system) (hc : system.callers[number]? = some c)
    (hholds : c.stage.holds = true) : ∃ call rest, c.calls = call :: rest := by
  obtain ⟨cs, -, htracks⟩ := hg.tracks number c hc
  cases hcalls : c.calls with
  | cons call rest => exact ⟨call, rest, rfl⟩
  | nil =>
    rw [htracks.idle hcalls] at hholds
    cases hholds

/-- Until all calls have returned, somebody can go on. -/
theorem finished_or_isSome (hg : Guarded calls h system) :
    system.Finished ∨ ∃ number, (system.taken? number).isSome = true := by
  by_cases hleft : system.Finished
  · exact .inl hleft
  · right
    unfold Finished at hleft
    simp only [not_forall, exists_prop] at hleft
    obtain ⟨c, hmem, hcalls⟩ := hleft
    obtain ⟨number, hc⟩ := List.mem_iff_getElem?.1 hmem
    obtain ⟨call, rest, hcalls⟩ := List.exists_cons_of_ne_nil hcalls
    cases hholder : system.shared.holder with
    | none =>
      exact ⟨number, (isSome_taken? hc).trans (Caller.isSome_step? number hcalls (.inr hholder))⟩
    | some other =>
      -- whoever has the lock can go on
      obtain ⟨d, hd, hholds⟩ := (hg.locked other).1 hholder
      obtain ⟨call', rest', hcalls'⟩ := hg.calls_ne_nil hd hholds
      exact ⟨other, (isSome_taken? hd).trans (Caller.isSome_step? other hcalls' (.inl hholds))⟩

/-- Two steps of one call are steps of the same call. -/
theorem call_eq (hg : Guarded calls h system) {t u : Taken} (ht : t ∈ h) (hu : u ∈ h)
    (hnumber : t.number = u.number) (hindex : t.index = u.index) : t.call = u.call := by
  obtain ⟨cs, hcs, hcall⟩ := hg.taken t ht
  obtain ⟨ds, hds, hcall'⟩ := hg.taken u hu
  rw [hnumber, hds] at hcs
  obtain rfl := Option.some.inj hcs
  rw [hindex, hcall'] at hcall
  exact (Option.some.inj hcall).symm

/-- No call executes its body twice. -/
theorem executions_le_one (hg : Guarded calls h system)
    (hlength : system.callers.length = calls.length) (number index : Nat) :
    executions h number index ≤ 1 := by
  by_cases hnone : executions h number index = 0
  · omega
  · obtain ⟨t, hmem, hcounts⟩ := List.countP_pos_iff.1 (Nat.pos_of_ne_zero hnone)
    simp only [Bool.and_eq_true, beq_iff_eq] at hcounts
    obtain ⟨⟨-, rfl⟩, rfl⟩ := hcounts
    obtain ⟨cs, hcs, hcall⟩ := hg.taken t hmem
    have hlt := (List.getElem?_eq_some_iff.1 hcs).1
    obtain ⟨c, hc⟩ : ∃ c, system.callers[t.number]? = some c :=
      ⟨_, List.getElem?_eq_getElem (hlength ▸ hlt)⟩
    obtain ⟨ds, hds, htracks⟩ := hg.tracks t.number c hc
    rw [hcs] at hds
    obtain rfl := Option.some.inj hds
    rcases Nat.lt_trichotomy t.index c.answers.length with hlt | heq | hgt
    · obtain ⟨call, -, hsettled⟩ := htracks.answered t.index _ (List.getElem?_eq_getElem hlt)
      exact hsettled.executions_le_one
    · rw [heq] at hcall ⊢
      exact (htracks.current t.call hcall).executions_le_one
    · exact Nat.le_of_lt (Nat.lt_one_iff.2 (htracks.future t.index hgt))

/-- Of all bodies that come to their end, only the first can be that of a run. -/
theorem countP_runs (hg : Guarded calls h system) : h.countP Taken.runs ≤ 1 := by
  have hcount : h.countP Taken.runs =
      (h.filter Taken.executes).countP fun t => !t.call.isForced := by
    rw [List.countP_filter]
    exact List.countP_congr fun t _ => by simp [Taken.runs, Bool.and_comm]
  rw [hcount]
  cases hfilter : h.filter Taken.executes with
  | nil => exact Nat.zero_le 1
  | cons t later =>
    have hlater : later.countP (fun t => !t.call.isForced) = 0 := by
      rw [List.countP_eq_zero]
      intro u hu
      simp [(hg.ordered t later hfilter).2 u hu]
    rw [List.countP_cons, hlater]
    split <;> omega

/-- A run that brings its body to its end is the call that took the lock first. -/
theorem call_of_runs (hg : Guarded calls h system) {e u : Taken}
    (he : h.find? Taken.locks = some e) (hu : u ∈ h) (hruns : u.runs = true) :
    u.call = e.call := by
  rw [Taken.runs, Bool.and_eq_true] at hruns
  have hmem : u ∈ h.filter Taken.executes := List.mem_filter.2 ⟨hu, hruns.1⟩
  cases hfilter : h.filter Taken.executes with
  | nil =>
    rw [hfilter] at hmem
    cases hmem
  | cons t later =>
    obtain ⟨⟨e', he', hsame⟩, hforced⟩ := hg.ordered t later hfilter
    rw [he] at he'
    obtain rfl := Option.some.inj he'
    rw [hfilter] at hmem
    rcases List.mem_cons.1 hmem with rfl | hlater
    · exact hg.call_eq hu (List.mem_of_find?_eq_some he) hsame.1 hsame.2
    · simp [hforced u hlater] at hruns

/-- Once all calls have returned, the call that took the lock first has executed its body. -/
theorem exists_executes (hg : Guarded calls h system) (hfinished : system.Finished) {e : Taken}
    (he : h.find? Taken.locks = some e) :
    ∃ t ∈ h, t.executes = true ∧ t.number = e.number ∧ t.index = e.index := by
  rcases hg.bound e he with ⟨c, hc, -, hbody⟩ | hdone
  · -- a call that is on its way to its body has not returned
    have hholds : c.stage.holds = true := by
      rcases hbody with ⟨hd | hd, -⟩ | hd <;> rw [hd] <;> rfl
    obtain ⟨call, rest, hcalls⟩ := hg.calls_ne_nil hc hholds
    rw [hfinished c (List.mem_of_getElem? hc)] at hcalls
    cases hcalls
  · exact hdone

/-- After a body has come to its end, no run executes another. -/
theorem not_runs_of_executes (hg : Guarded calls h system) {front back : List Taken}
    (hsplit : h = front ++ t :: back) (hexecutes : t.executes = true) {u : Taken}
    (hu : u ∈ back) : u.runs = false := by
  rw [Taken.runs, Bool.and_eq_false_imp]
  intro hdone
  have hmem : u ∈ back.filter Taken.executes := List.mem_filter.2 ⟨hu, hdone⟩
  have hfilter : h.filter Taken.executes =
      front.filter Taken.executes ++ t :: back.filter Taken.executes := by
    rw [hsplit, List.filter_append, List.filter_cons_of_pos hexecutes]
  cases hfront : front.filter Taken.executes with
  | nil =>
    rw [hfront] at hfilter
    simp [(hg.ordered t _ hfilter).2 u hmem]
  | cons first others =>
    rw [hfront] at hfilter
    have hlater : u ∈ others ++ t :: back.filter Taken.executes :=
      List.mem_append_right _ (List.mem_cons_of_mem t hmem)
    simp [(hg.ordered first _ hfilter).2 u hlater]

/-- Once all calls have returned, each has an answer. -/
theorem exists_answer (hg : Guarded calls h system) (hfinished : system.Finished)
    {c : Caller} (hc : system.callers[number]? = some c) {cs : List Call}
    (hcs : calls[number]? = some cs) (hcall : cs[index]? = some call) :
    ∃ answer, c.answers[index]? = some answer := by
  obtain ⟨ds, hds, htracks⟩ := hg.tracks number c hc
  rw [hcs] at hds
  obtain rfl := Option.some.inj hds
  have hnone : cs.drop c.answers.length = [] := by
    rw [← htracks.calls]
    exact hfinished c (List.mem_of_getElem? hc)
  have hlt := (List.getElem?_eq_some_iff.1 hcall).1
  have hle := List.drop_eq_nil_iff.1 hnone
  exact ⟨_, List.getElem?_eq_getElem (Nat.lt_of_lt_of_le hlt hle)⟩

end Guarded

/-- A guard between any callers with any calls, however their steps are mixed. No two callers are in
a body at a time, and no call executes its body twice. At most one run executes its body: if a run
takes the lock before any other call, exactly that one does, and if a forced run does, none. A call
that has returned has executed its body and answers as the body does, or it is a run that answers
that it has not, and a body had come to its end before; so every forced run executes its body, and a
failure is answered to the call whose body has failed and to no other. After a body has come to its
end, no run executes another. A guard that is marked stays marked. And all calls return: somebody
can go on until then, and there are no more than seven steps for each call. -/
theorem bodies_guarded (calls : List (List Call)) (schedule : List Nat) :
    (∀ (i j : Nat) (c d : Caller), (after calls schedule).callers[i]? = some c →
      (after calls schedule).callers[j]? = some d → c.stage = .inBody → d.stage = .inBody →
        i = j) ∧
    (∀ i k, executions (steps calls schedule) i k ≤ 1) ∧
    (steps calls schedule).countP Taken.runs ≤ 1 ∧
    (∀ e, (steps calls schedule).find? Taken.locks = some e →
      (e.call.isForced = true → (steps calls schedule).countP Taken.runs = 0) ∧
      (e.call.isForced = false → (after calls schedule).Finished →
        (steps calls schedule).countP Taken.runs = 1 ∧
          executions (steps calls schedule) e.number e.index = 1)) ∧
    (∀ (i k : Nat) (c : Caller) (answer : Outcome Bool),
      (after calls schedule).callers[i]? = some c → c.answers[k]? = some answer →
        ∃ cs call, calls[i]? = some cs ∧ cs[k]? = some call ∧
          Settled (steps calls schedule) i k call answer) ∧
    (∀ front t back, steps calls schedule = front ++ t :: back → t.executes = true →
      ∀ u ∈ back, u.runs = false) ∧
    (∀ more, (after calls schedule).shared.guard.started = true →
      (after calls (schedule ++ more)).shared.guard.started = true) ∧
    ((after calls schedule).Finished ∨
      ∃ number, ((after calls schedule).taken? number).isSome = true) ∧
    (steps calls schedule).length ≤ 7 * calls.flatten.length ∧
    ((after calls schedule).Finished →
      ∀ (i k : Nat) (cs : List Call) (call : Call), calls[i]? = some cs → cs[k]? = some call →
        ∃ (c : Caller) (answer : Outcome Bool), (after calls schedule).callers[i]? = some c ∧
          c.answers[k]? = some answer) := by
  have hg := guarded_after calls schedule
  have hlength := length_callers_after calls schedule
  refine ⟨?_, hg.executions_le_one hlength, hg.countP_runs, ?_, ?_, ?_, ?_,
    hg.finished_or_isSome, length_history_le calls schedule, ?_⟩
  · -- whoever executes a body holds the lock
    intro i j c d hc hd hbody hbody'
    exact hg.locked.unique hd (by rw [hbody']; rfl) hc (by rw [hbody]; rfl)
  · -- the call that takes the lock first decides whether a run executes its body
    intro e he
    refine ⟨?_, ?_⟩
    · intro hforced
      rw [List.countP_eq_zero]
      intro u hu hruns
      have hcall := hg.call_of_runs he hu hruns
      simp [Taken.runs, hcall, hforced] at hruns
    · intro hrun hfinished
      obtain ⟨t, hmem, hexecutes, hnumber, hindex⟩ := hg.exists_executes hfinished he
      have hcall := hg.call_eq hmem (List.mem_of_find?_eq_some he) hnumber hindex
      have hone : 0 < (steps calls schedule).countP Taken.runs := by
        rw [List.countP_pos_iff]
        exact ⟨t, hmem, by simp [Taken.runs, hexecutes, hcall, hrun]⟩
      have hbody : 0 < executions (steps calls schedule) e.number e.index := by
        rw [executions, List.countP_pos_iff]
        exact ⟨t, hmem, by simp [hexecutes, hnumber, hindex]⟩
      exact ⟨Nat.le_antisymm hg.countP_runs hone,
        Nat.le_antisymm (hg.executions_le_one hlength _ _) hbody⟩
  · intro i k c answer hc hanswer
    obtain ⟨cs, hcs, htracks⟩ := hg.tracks i c hc
    obtain ⟨call, hcall, hsettled⟩ := htracks.answered k answer hanswer
    exact ⟨cs, call, hcs, hcall, hsettled⟩
  · intro front t back hsplit hexecutes u hu
    exact hg.not_runs_of_executes hsplit hexecutes hu
  · intro more hstarted
    unfold after
    rw [follow_append]
    exact started_follow _ more hstarted
  · -- a caller that is at its end has answered all of its calls
    intro hfinished i k cs call hcs hcall
    have hlt := (List.getElem?_eq_some_iff.1 hcs).1
    have hc := List.getElem?_eq_getElem (hlength.symm ▸ hlt)
    obtain ⟨answer, hanswer⟩ := hg.exists_answer hfinished hc hcs hcall
    exact ⟨_, answer, hc, hanswer⟩

end Callers
end OneShot
end CacheService
