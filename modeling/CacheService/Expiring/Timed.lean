/-!
# Items with a deadline

Times are milliseconds and lifetimes are seconds, both in 64 bits. A deadline that would lie beyond
the last time is moved to the last time.
-/

namespace CacheService

namespace Time

def last : Nat :=
  UInt64.size - 1

/-- The time that lies a number of seconds after another, or the last time. -/
def after (now seconds : UInt64) : UInt64 :=
  UInt64.ofNat (min (now.toNat + 1000 * seconds.toNat) last)

/-- The sum does not wrap around: it is cut off at the last time. -/
theorem toNat_after (now seconds : UInt64) :
    (after now seconds).toNat = min (now.toNat + 1000 * seconds.toNat) last := by
  have : min (now.toNat + 1000 * seconds.toNat) last < UInt64.size := by
    simp only [last, UInt64.size]
    omega
  simp only [after, UInt64.toNat_ofNat', UInt64.size] at *
  omega

end Time

structure Timed (α : Type) where
  item : α
  deadline : UInt64
  deriving DecidableEq, Repr

namespace Timed

variable {α : Type}

def lasting (item : α) (now lifetime : UInt64) : Timed α where
  item := item
  deadline := Time.after now lifetime

/-- An item is expired from its deadline on. -/
def isExpired (t : Timed α) (now : UInt64) : Bool :=
  t.deadline ≤ now

def extend (t : Timed α) (time : UInt64) : Timed α :=
  { t with deadline := max t.deadline time }

/-- The milliseconds that are left, zero from the deadline on. -/
def remaining (t : Timed α) (now : UInt64) : UInt64 :=
  if t.deadline ≤ now then 0 else t.deadline - now

end Timed
end CacheService
