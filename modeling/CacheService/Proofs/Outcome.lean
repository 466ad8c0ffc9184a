import CacheService.Error

/-!
# Outcomes in sequence

When a sequence of operations that can fail succeeds, and what `throw` and `pure` are.
-/

namespace CacheService
namespace Outcome

variable {ε α β : Type}

theorem bind_eq_ok_iff {x : Except ε α} {f : α → Except ε β} {b : β} :
    (x >>= f) = .ok b ↔ ∃ a, x = .ok a ∧ f a = .ok b := by
  cases x <;> simp [bind, Except.bind]

@[simp] theorem error_bind (e : ε) (f : α → Except ε β) : (Except.error e >>= f) = .error e :=
  rfl

@[simp] theorem ok_bind (a : α) (f : α → Except ε β) : (Except.ok a >>= f) = f a :=
  rfl

@[simp] theorem throw_eq (e : ε) : (throw e : Except ε α) = .error e :=
  rfl

@[simp] theorem pure_eq (a : α) : (pure a : Except ε α) = .ok a :=
  rfl

@[simp] theorem toOption_ok (a : α) : (Except.ok a : Except ε α).toOption = some a :=
  rfl

@[simp] theorem toOption_error (e : ε) : (Except.error e : Except ε α).toOption = none :=
  rfl

end Outcome
end CacheService
