import CacheService.Json.Skip
import CacheService.Sql.Fault

/-!
# Parts of documents

What a text says as a JSON document, and the part of it that a path names. Only documents that are a
single text, number or word are taken apart; such a document has no parts but itself.
-/

namespace CacheService
namespace Sql
namespace Extraction

/-- What a path asks for in a document that is no list and no object. -/
inductive Step where
  | whole
  | nothing
  /-- the path cannot be read from here on -/
  | wrong (rest : String)
  deriving DecidableEq, Repr

/-- Reads what stands behind the sign of the whole document. -/
def readStep (path : List Char) : Step :=
  match path with
  | [] => .whole
  | '.' :: _ => .nothing
  | '[' :: rest =>
    let behind := rest.dropWhile Char.isDigit
    if rest.head? = some '#' || (behind.length < rest.length && behind.head? = some ']') then
      .nothing
    else .wrong (String.ofList path)
  | path => .wrong (String.ofList path)

/-- Reads a path. One that does not begin with the sign of the whole document is a name or, if it
begins with a digit, a number. -/
def readPath (path : List Char) : Step :=
  match path with
  | '$' :: rest => readStep rest
  | '[' :: _ => readStep path
  | c :: _ => if c.isDigit then readStep ('[' :: path ++ [']']) else .nothing
  | [] => .nothing

/-- The bytes of a document without blanks around it, or a fault if it is none. -/
def document (bytes : List UInt8) : Except Fault (List UInt8) :=
  let bytes := Json.skipBlanks bytes
  match Json.skipValue bytes.length bytes with
  | .error _ => .error .malformedDocument
  | .ok rest =>
    if (Json.skipBlanks rest).isEmpty then .ok (bytes.take (bytes.length - rest.length))
    else .error .malformedDocument

def value (document : List UInt8) : Cell :=
  match document.map fun b => Char.ofNat b.toNat with
  | ['n', 'u', 'l', 'l'] => .null
  | ['t', 'r', 'u', 'e'] => .ofTruth (some true)
  | ['f', 'a', 'l', 's', 'e'] => .ofTruth (some false)
  | '"' :: _ =>
    match Json.readText (document.drop 1) with
    | .ok (s, _) => .text (Text.bytes s)
    | .error _ => .null
  | _ => (Cell.text document).asNumber

/-- The part of a document that a path names, as a document or as a value. -/
def extract (asValue : Bool) (c path : Cell) : Except Fault Cell := do
  if c = .null then return .null
  let found ← document (c.toBytes.takeWhile (· != 0))
  if path = .null then return .null
  if found.head?.any fun b => b = Json.byte '[' || b = Json.byte '\x7b' then throw .unsupported
  match readPath path.toChars with
  | .whole => return if asValue then value found else .text found
  | .nothing => return .null
  | .wrong rest => throw (.wrongPath rest)

end Extraction
end Sql
end CacheService
