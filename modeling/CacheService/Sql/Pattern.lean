/-!
# Patterns

Patterns for texts. There are two ways to write one: with `%` and `_`, without regard to the case of
ASCII letters and with an escape character, and with `*`, `?` and sets of characters in brackets. A
pattern is a list of elements, and `endings` finds all places of a text where a match can begin.
-/

namespace CacheService
namespace Sql

inductive PatternElement where
  /-- any run of characters -/
  | run
  /-- any character -/
  | any
  /-- one of the characters that pass -/
  | one (test : Char → Bool)

/-- A pattern, or none if it is written so that no text matches it. -/
abbrev Pattern := Option (List PatternElement)

namespace Pattern

/-- Whether a match begins at each place or at a later one. -/
def fromThere : List Bool → List Bool
  | [] => []
  | b :: rest => (b || (fromThere rest).head?.getD false) :: fromThere rest

/-- Whether a match of the pattern stands at each of the places of a text, from its beginning to its
end. -/
def endings (elements : List PatternElement) (text : List Char) : List Bool :=
  match elements with
  | [] => text.map (fun _ => false) ++ [true]
  | e :: rest =>
    let found := endings rest text
    match e with
    | .run => fromThere found
    | .any => found.drop 1 ++ [false]
    | .one test => (text.zip (found.drop 1)).map (fun (c, b) => test c && b) ++ [false]

theorem length_fromThere (found : List Bool) : (fromThere found).length = found.length := by
  induction found with
  | nil => rfl
  | cons b rest ih => simp [fromThere, ih]

/-- There is one place before each character and one at the end. -/
theorem length_endings (elements : List PatternElement) (text : List Char) :
    (endings elements text).length = text.length + 1 := by
  induction elements with
  | nil => simp [endings]
  | cons e rest ih => cases e <;> simp [endings, length_fromThere, ih]

def accepts (p : Pattern) (text : List Char) : Bool :=
  p.any fun elements => (endings elements text).head?.getD false

/-! ## Writing with percent signs -/

def eitherCase (c d : Char) : Bool :=
  c.toLower = d.toLower

/-- Reads a pattern with `%`, `_` and an escape character, behind which a character stands for
itself. -/
def ofLike (escape : Option Char) : List Char → Pattern
  | [] => some []
  | c :: rest =>
    if some c = escape then
      match rest with
      | [] => none
      | d :: rest => (ofLike escape rest).map (.one (eitherCase d) :: ·)
    else
      let e : PatternElement :=
        if c = '%' then .run else if c = '_' then .any else .one (eitherCase c)
      (ofLike escape rest).map (e :: ·)

/-! ## Writing with stars -/

structure CharacterSet where
  inverted : Bool
  test : Char → Bool
  /-- the character before, at which a range can begin -/
  before : Option Char

/-- Reads a pattern with `*`, `?` and sets. The characters of a set that is open are added to it; a
closing bracket right at its beginning belongs to it. -/
def ofGlob (opened : Option (CharacterSet × Bool)) : List Char → Pattern
  | [] => if opened.isSome then none else some []
  | c :: rest =>
    match opened with
    | none =>
      if c = '*' then (ofGlob none rest).map (.run :: ·)
      else if c = '?' then (ofGlob none rest).map (.any :: ·)
      else if c = '[' then
        match rest with
        | '^' :: behind => ofGlob (some (⟨true, fun _ => false, none⟩, true)) behind
        | behind => ofGlob (some (⟨false, fun _ => false, none⟩, true)) behind
      else (ofGlob none rest).map (.one (· = c) :: ·)
    | some (set, first) =>
      let single : CharacterSet :=
        { set with test := fun d => set.test d || d = c, before := some c }
      if c = ']' then
        if first then ofGlob (some ({ single with before := none }, false)) rest
        else (ofGlob none rest).map (.one (fun d => set.test d != set.inverted) :: ·)
      else
        match c, set.before, rest with
        | '-', some low, high :: behind =>
          if high = ']' then ofGlob (some (single, false)) (high :: behind)
          else
            let test := fun d => set.test d || (low ≤ d && d ≤ high)
            ofGlob (some ({ set with test, before := none }, false)) behind
        | _, _, rest => ofGlob (some (single, false)) rest

end Pattern
end Sql
end CacheService
