/-!
# Media types

The type of a request body: a type, a subtype with an optional suffix, and parameters. What is asked
of it is whether the body is a JSON document. Characters outside ASCII make it no media type.
-/

namespace CacheService
namespace MediaType

/-- Whether a text can be sent as a media type: of the controls, it may hold tabs. -/
def isSendable (s : String) : Bool :=
  s.toList.all fun c => c = '\t' || (0x20 ≤ c.toNat && c.toNat ≠ 0x7F)

/-- Characters of a type, a subtype or a parameter. -/
def isToken (c : Char) : Bool :=
  c.isAlphanum || "!#$%&'*+-.^_`|~".toList.contains c

/-- Characters that a quoted value may hold: those of ASCII that are no controls. -/
def isQuotedChar (c : Char) : Bool :=
  0x20 ≤ c.toNat && c.toNat < 0x7F

/-- What stands behind a quoted value: blanks and the end or a further parameter. -/
def afterQuoted? (cs : List Char) : Option (List Char) :=
  match cs.dropWhile (· = ' ') with
  | [] => some []
  | ';' :: rest => some rest
  | _ => none

def afterValue? (cs : List Char) : Option (List Char) :=
  match cs with
  | '"' :: rest =>
    match rest with
    | first :: more =>
      if !isQuotedChar first then none
      else
        let inside (c : Char) := c ≠ '"' && isQuotedChar c
        match more.dropWhile inside with
        | '"' :: behind => afterQuoted? behind
        | _ => none
    | [] => none
  | _ =>
    match cs.dropWhile isToken with
    | [] => some []
    | ';' :: rest => if (cs.takeWhile isToken).isEmpty then none else some rest
    | _ => none

def afterParameter? (cs : List Char) : Option (List Char) :=
  let name := cs.takeWhile isToken
  match cs.dropWhile isToken with
  | '=' :: value => if name.isEmpty then none else afterValue? value
  | _ => none

/-- Whether parameters are well formed. A parameter takes a character at least. -/
def areParameters : Nat → List Char → Bool
  | 0, _ => false
  | bound + 1, cs =>
    match cs.dropWhile (· = ' ') with
    | [] => true
    | cs =>
      match afterParameter? cs with
      | some rest => areParameters bound rest
      | none => false

/-- Splits a subtype at its last plus sign that is not its first character. -/
def splitSuffix (subtype : List Char) : List Char × Option (List Char) :=
  let suffix := (subtype.reverse.takeWhile (· ≠ '+')).reverse
  let before := subtype.take (subtype.length - suffix.length - 1)
  if suffix.length = subtype.length || before.isEmpty then (subtype, none)
  else (before, some suffix)

/-- Whether a media type stands for JSON documents: the subtype or the suffix says so. -/
def isJson (s : String) : Bool :=
  let cs := s.toList.map Char.toLower
  let type := cs.takeWhile isToken
  match cs.dropWhile isToken with
  | '/' :: rest =>
    let subtype := rest.takeWhile isToken
    let parameters :=
      match rest.dropWhile isToken with
      | [] => true
      | ';' :: more => !subtype.isEmpty && areParameters (more.length + 1) more
      | _ => false
    let (main, suffix) := splitSuffix subtype
    let json := "json".toList
    type = "application".toList && parameters && (main = json || suffix = some json)
  | _ => false

end MediaType
end CacheService
