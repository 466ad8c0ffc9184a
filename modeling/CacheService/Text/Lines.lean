/-!
# Lines

A text cut at its line feeds. A carriage return before a line feed belongs to the cut, and behind
the last line feed there is a line only if there is text.
-/

namespace CacheService
namespace Text

/-- A line without the line feed that ends it, latest character first, as text. -/
def finishLine (reversed : List Char) : String :=
  match reversed with
  | '\r' :: rest => String.ofList rest.reverse
  | _ => String.ofList reversed.reverse

/-- Cuts the rest of a text, given the lines before it and the characters of the line that was
begun, both latest first. -/
def linesFrom (done : List String) (line : List Char) : List Char → List String
  | [] => (if line.isEmpty then done else String.ofList line.reverse :: done).reverse
  | c :: rest =>
    if c = '\n' then linesFrom (finishLine line :: done) [] rest
    else linesFrom done (c :: line) rest

def lines (s : String) : List String :=
  linesFrom [] [] s.toList

end Text
end CacheService
