import CacheService.Text.Case.Runs
import CacheService.Text.Case.Context

/-!
# Lower case

Full lower-casing of text: each character by itself (`smallLetters`), and a whole text
(`lowerCase`).

The two differ in one place only. A capital sigma becomes a final sigma where it ends a word, and a
plain small sigma elsewhere, so a text cannot be lower-cased one character at a time.
-/

namespace CacheService
namespace Text

/-! ## One character -/

/-- The small form of one character. Only the capital I with a dot above has two characters. -/
def smallLetters (c : Char) : List Char :=
  if c = 'İ' then ['i', '\u0307']
  else
    match Case.runs.find? fun r => r.covers c.toNat with
    | some r => [Char.ofNat (r.lower c.toNat)]
    | none => [c]

def smallLettersOf (cs : List Char) : List Char :=
  cs.flatMap smallLetters

/-! ## The end of a word -/

/-- Whether the first character that case rules do not pass over is a letter with case. -/
def meetsCased (cs : List Char) : Bool :=
  match cs.dropWhile Case.isIgnorable with
  | c :: _ => Case.isCased c
  | [] => false

/-- Whether a letter between `before`, nearest character first, and `after` ends a word. -/
def endsWord (before after : List Char) : Bool :=
  meetsCased before && !meetsCased after

/-! ## A whole text -/

/-- Lower-cases the rest of a text, given the characters before it, nearest first. -/
def lowerFrom (before : List Char) : List Char → List Char
  | [] => []
  | c :: after =>
    let small :=
      if c = 'Σ' then [if endsWord before after then 'ς' else 'σ'] else smallLetters c
    small ++ lowerFrom (c :: before) after

/-- The text in lower case, with a final sigma at the end of a word. -/
def lowerCase (s : String) : String :=
  String.ofList (lowerFrom [] s.toList)

end Text
end CacheService
