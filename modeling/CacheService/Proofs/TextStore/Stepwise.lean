import CacheService.Number.Double
import Mathlib.Data.Sum.Basic
import Mathlib.Logic.Function.Iterate

/-!
# Operations in steps

An operation that others may come between is given by its steps. `Stepwise.Performs` says that with
nobody in between the steps come to what some act does at once, and `Stepwise.Keeps` that no step
breaks a property of the state. Both are had of an operation of one kind or another from its kinds.
-/

namespace CacheService

/-- An operation on a state of type `σ`, cut into the steps between which others may come. A step is
told how much memory is free, should it ask for that. -/
structure Stepwise (σ ι α : Type) where
  Stage : Type
  start : ι → Stage
  step : Double → Stage → σ → Stage × σ
  answer? : Stage → Option α

namespace Stepwise

variable {σ ι α : Type} (w : Stepwise σ ι α)

/-- The next step, unless the operation has answered. -/
def advance (free : Double) (x : w.Stage × σ) : w.Stage × σ :=
  match w.answer? x.1 with
  | some _ => x
  | none => w.step free x.1 x.2

/-- Steps with nobody in between end with an answer and a state. -/
def Ends (free : Double) (x : w.Stage × σ) (y : α × σ) : Prop :=
  ∃ n, ((w.advance free)^[n] x).2 = y.2 ∧ w.answer? ((w.advance free)^[n] x).1 = some y.1

/-- The steps of the operation end as an act does. -/
def Performs (act : Double → ι → σ → α × σ) : Prop :=
  ∀ free i s, w.Ends free (w.start i, s) (act free i s)

/-- An act in a single step. -/
def atOnce (act : ι → σ → α × σ) : Stepwise σ ι α where
  Stage := ι ⊕ α
  start := .inl
  step _ stage s :=
    match stage with
    | .inl i => (.inr (act i s).1, (act i s).2)
    | .inr a => (.inr a, s)
  answer? := Sum.getRight?

theorem atOnce_performs (act : ι → σ → α × σ) : (atOnce act).Performs fun _ => act :=
  fun _ _ _ => ⟨1, rfl, rfl⟩

/-- An operation of one kind or another, each with its own steps. -/
def either {ι₁ ι₂ : Type} (choose : ι → ι₁ ⊕ ι₂) (w₁ : Stepwise σ ι₁ α) (w₂ : Stepwise σ ι₂ α) :
    Stepwise σ ι α where
  Stage := w₁.Stage ⊕ w₂.Stage
  start i := (choose i).map w₁.start w₂.start
  step free stage s :=
    match stage with
    | .inl stage => (w₁.step free stage s).map .inl id
    | .inr stage => (w₂.step free stage s).map .inr id
  answer? := Sum.elim w₁.answer? w₂.answer?

/-- The steps of one operation are steps of another. -/
structure Embeds {κ : Type} (w : Stepwise σ ι α) (w' : Stepwise σ κ α)
    (embed : w.Stage → w'.Stage) : Prop where
  answer? : ∀ stage, w'.answer? (embed stage) = w.answer? stage
  step : ∀ free stage s, w'.step free (embed stage) s = (w.step free stage s).map embed id

/-- Steps end alike where they are embedded. -/
theorem Embeds.ends {κ : Type} {w : Stepwise σ ι α} {w' : Stepwise σ κ α}
    {embed : w.Stage → w'.Stage} (h : Embeds w w' embed) {free : Double} {x : w.Stage × σ}
    {y : α × σ} (hx : w.Ends free x y) : w'.Ends free (x.map embed id) y := by
  -- one step of the first is one of the second, and so are any number of steps
  have hcommutes : Function.Semiconj (Prod.map embed id) (w.advance free) (w'.advance free) := by
    rintro ⟨stage, s⟩
    simp only [advance, Prod.map_apply, h.answer?, h.step, id_eq]
    cases w.answer? stage <;> rfl
  obtain ⟨n, hs, hanswer⟩ := hx
  refine ⟨n, ?_, ?_⟩
  · rw [← hcommutes.iterate_right n x]
    exact hs
  · rw [← hcommutes.iterate_right n x, Prod.map_fst, h.answer?, hanswer]

/-- Of two kinds of operations, each ends as its own act. -/
theorem Performs.either {ι₁ ι₂ : Type} {choose : ι → ι₁ ⊕ ι₂} {w₁ : Stepwise σ ι₁ α}
    {w₂ : Stepwise σ ι₂ α} {act₁ : Double → ι₁ → σ → α × σ} {act₂ : Double → ι₂ → σ → α × σ}
    (h₁ : w₁.Performs act₁) (h₂ : w₂.Performs act₂) :
    (either choose w₁ w₂).Performs fun free i =>
      Sum.elim (act₁ free) (act₂ free) (choose i) := by
  intro free i s
  have hstart : (Stepwise.either choose w₁ w₂).start i = (choose i).map w₁.start w₂.start := rfl
  have hleft : Embeds w₁ (Stepwise.either choose w₁ w₂) .inl := ⟨fun _ => rfl, fun _ _ _ => rfl⟩
  have hright : Embeds w₂ (Stepwise.either choose w₁ w₂) .inr := ⟨fun _ => rfl, fun _ _ _ => rfl⟩
  dsimp only
  rw [hstart]
  cases choose i with
  | inl i => exact hleft.ends (h₁ free i s)
  | inr i => exact hright.ends (h₂ free i s)

/-! ### What steps keep -/

/-- The steps keep a property of the state, while the stages have another. -/
structure Keeps (w : Stepwise σ ι α) (state : σ → Prop) (stage : w.Stage → Prop) : Prop where
  start : ∀ i, stage (w.start i)
  step : ∀ free g s, stage g → state s → stage (w.step free g s).1 ∧ state (w.step free g s).2

variable {state : σ → Prop}

theorem Keeps.atOnce {act : ι → σ → α × σ} (h : ∀ i s, state s → state (act i s).2) :
    (atOnce act).Keeps state fun _ => True where
  start _ := trivial
  step _ g s _ hs := by
    cases g with
    | inl i => exact ⟨trivial, h i s hs⟩
    | inr a => exact ⟨trivial, hs⟩

/-- Two kinds of operations keep what each of them keeps. -/
theorem Keeps.either {ι₁ ι₂ : Type} {choose : ι → ι₁ ⊕ ι₂} {w₁ : Stepwise σ ι₁ α}
    {w₂ : Stepwise σ ι₂ α} {stage₁ : w₁.Stage → Prop} {stage₂ : w₂.Stage → Prop}
    (h₁ : w₁.Keeps state stage₁) (h₂ : w₂.Keeps state stage₂) :
    (either choose w₁ w₂).Keeps state (Sum.elim stage₁ stage₂) where
  start i := by
    have hstart : (Stepwise.either choose w₁ w₂).start i = (choose i).map w₁.start w₂.start := rfl
    rw [hstart]
    cases choose i with
    | inl i => exact h₁.start i
    | inr i => exact h₂.start i
  step free g s hg hs := by
    cases g with
    | inl g => exact h₁.step free g s hg hs
    | inr g => exact h₂.step free g s hg hs

end Stepwise

end CacheService
