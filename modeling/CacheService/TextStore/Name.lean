import CacheService.Error
import Std.Data.ExtTreeMap

/-!
# Names of texts

A text is named by its type and its id, and each of the two is the name of one directory or file.
-/

namespace CacheService

structure TextKey where
  textType : String
  id : String
  deriving DecidableEq, Repr

namespace TextKey

/-- Keys are ordered by type and then by id. -/
instance : Ord TextKey where
  compare := compareLex (compareOn textType) (compareOn id)

instance : Std.TransOrd TextKey :=
  inferInstanceAs (Std.TransCmp (compareLex (compareOn textType) (compareOn id)))

instance : Std.LawfulEqOrd TextKey where
  eq_of_compare {a b} h := by
    have h' : (compareOn textType a b).then (compareOn id a b) = .eq := h
    simp only [Ordering.then_eq_eq, compareOn, Std.LawfulEqOrd.compare_eq_iff_eq] at h'
    cases a
    cases b
    simp_all

end TextKey

namespace TextName

/-- The directory of files that are being written, which is no text type. -/
def staging : String :=
  ".staging"

inductive Fault where
  | empty
  | relative
  | separator
  | reserved
  deriving DecidableEq, Repr

namespace Fault

def message (kind value : String) : Fault → String
  | empty => s!"{kind} must not be empty"
  | relative => s!"{kind} '{value}' is a relative directory reference"
  | separator => s!"{kind} '{value}' contains a path separator"
  | reserved => s!"{kind} '{value}' is reserved"

end Fault

/-- What is wrong with a name as a single component of a path. -/
def fault? (value : String) : Option Fault :=
  if value.isEmpty then some .empty
  else if value = "." || value = ".." then some .relative
  else if value.toList.any fun c => c = '/' || c = '\\' then some .separator
  else none

def check (kind value : String) : Outcome Unit :=
  match fault? value with
  | some f => .error (.invalidTextType (f.message kind value))
  | none => .ok ()

/-- Refuses the type or the id of a text, the type first. -/
def checkKey (key : TextKey) : Outcome Unit := do
  check "text type" key.textType
  check "id" key.id

/-- Refuses a text type that cannot have a directory of its own. -/
def checkType (textType : String) : Outcome Unit := do
  check "text type" textType
  if textType = staging then
    throw (.invalidTextType (Fault.message "text type" textType .reserved))

end TextName
end CacheService
