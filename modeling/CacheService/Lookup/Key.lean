import CacheService.Row.Basic
import CacheService.Text.LowerCase

/-!
# Keys of lookup tables

A key is null, a truth value, a whole number or a text. Texts are compared without regard to case: a
table stores and finds a key by its normal form, the text in lower case.

`Key.normal` makes the normal form outright. `Key.renormal` first asks whether any character
changes, and says whether the key was kept as it is.
-/

namespace CacheService

inductive Key where
  | null
  | flag (b : Bool)
  | integer (i : Int64)
  | text (s : String)
  deriving DecidableEq, Repr, Inhabited

structure Entry (α : Type) where
  key : Key
  value : α
  deriving DecidableEq, Repr

namespace Key

/-! ## Order -/

/-- The place of the kind of a key: null, truth values, whole numbers, texts. -/
def rank : Key → Nat
  | null => 0
  | flag _ => 1
  | integer _ => 2
  | text _ => 3

/-- A number that tells keys of one kind apart, for all kinds but text. -/
def number : Key → Int
  | null => 0
  | flag b => if b then 1 else 0
  | integer i => i.toInt
  | text _ => 0

def characters : Key → String
  | text s => s
  | _ => ""

/-- Keys are ordered by kind, then by number, then by the code points of the text. -/
instance : Ord Key where
  compare := compareLex (compareOn rank) (compareLex (compareOn number) (compareOn characters))

/-! ## Making and showing keys -/

/-- A key of a column value. Numbers with a fraction and blobs are refused. -/
def ofValue (v : Value) : Outcome Key :=
  match v with
  | .null => .ok .null
  | .integer i => .ok (.integer i)
  | .text s => .ok (.text s)
  | .real _ | .blob _ =>
    .error (.configuration s!"column value {v.display} cannot be used as a cache key")

def display : Key → String
  | null => "null"
  | flag b => if b then "true" else "false"
  | integer i => toString i
  | text s => s

def json : Key → String
  | null => "null"
  | flag b => if b then "true" else "false"
  | integer i => toString i
  | text s => Json.quoted s

def isNull (k : Key) : Bool :=
  k == null

/-! ## Normal form -/

/-- The form under which a table stores a key. -/
def normal : Key → Key
  | text s => text (Text.lowerCase s)
  | k => k

/-- The outcome of asking for the normal form of a key that may be in normal form already. -/
inductive Renormal where
  | kept (k : Key)
  | changed (k : Key)
  deriving DecidableEq, Repr

namespace Renormal

def key : Renormal → Key
  | kept k => k
  | changed k => k

def isKept : Renormal → Bool
  | kept _ => true
  | changed _ => false

end Renormal

/-- The normal form, made only when some character has a different small form. -/
def renormal (k : Key) : Renormal :=
  match k with
  | text s =>
    if Text.smallLettersOf s.toList = s.toList then .kept (text s)
    else .changed (text (Text.lowerCase s))
  | k => .kept k

end Key
end CacheService
