import CacheService.Json.Skip

/-!
# Records in JSON

A record has named fields of known kinds. It is read of an object, in which unknown members are
skipped, or of a list that holds the fields in order. The first fault from left to right decides how
reading fails.
-/

namespace CacheService
namespace Json

inductive Kind where
  | text
  | natural
  /-- a whole number, or null, or nothing at all -/
  | optionalNatural
  deriving DecidableEq, Repr

structure Field where
  name : String
  kind : Kind

inductive Held where
  | text (s : String)
  | natural (n : Nat)
  | nothing
  deriving DecidableEq, Repr

namespace Kind

/-- What a field holds that is missing, if it may be missing. -/
def absent? : Kind → Option Held
  | text => none
  | natural => none
  | optionalNatural => some .nothing

end Kind

/-! ## Values -/

/-- The fault of a value that is none of those asked for: what is wrong with the value itself, or
that it is of another kind. -/
def otherKind (bytes : List UInt8) : Fault :=
  let judge {α : Type} (r : Except Fault α) : Fault :=
    match r with
    | .error e => e
    | .ok _ => .mismatched
  match bytes with
  | [] => .truncated
  | b :: rest =>
    if b = byte 'n' then judge (readWord "ull" rest)
    else if b = byte 't' then judge (readWord "rue" rest)
    else if b = byte 'f' then judge (readWord "alse" rest)
    else if b = byte '-' then judge (readNumber true rest)
    else if isDigit b then judge (readNumber false bytes)
    else if b = byte '"' then judge (readText rest)
    else if (Frame.opened? b).isSome then .mismatched
    else .malformed

def readNatural (bytes : List UInt8) : Parsed Held :=
  match bytes with
  | [] => .error .truncated
  | b :: _ =>
    if !isDigit b then .error (otherKind bytes)
    else
      match readNumber false bytes with
      | .error e => .error e
      | .ok (some n, rest) => .ok (.natural n, rest)
      | .ok (none, _) => .error .mismatched

def Kind.read (kind : Kind) (bytes : List UInt8) : Parsed Held :=
  match kind, skipBlanks bytes with
  | _, [] => .error .truncated
  | .text, b :: rest =>
    if b = byte '"' then (readText rest).map fun (s, rest) => (.text s, rest)
    else .error (otherKind (b :: rest))
  | .natural, bytes => readNatural bytes
  | .optionalNatural, b :: rest =>
    if b = byte 'n' then (readWord "ull" rest).map fun rest => (.nothing, rest)
    else readNatural (b :: rest)

/-! ## Records as objects -/

abbrev Found : Type :=
  List (String × Held)

/-- What the fields hold, in order. A field that may not be missing must have been found. -/
def complete (fields : List Field) (found : Found) : Except Fault (List Held) :=
  fields.mapM fun field =>
    match found.lookup field.name with
    | some held => .ok held
    | none =>
      match field.kind.absent? with
      | some held => .ok held
      | none => .error .mismatched

def readColon (bytes : List UInt8) : Except Fault (List UInt8) :=
  match skipBlanks bytes with
  | [] => .error .truncated
  | b :: rest => if b = byte ':' then .ok rest else .error .malformed

/-- Reads a member of an object of so many bytes at most. A field that was found before is a fault
before its value is looked at. -/
def readMember (fields : List Field) (bound : Nat) (found : Found) (bytes : List UInt8) :
    Except Fault (Found × List UInt8) := do
  let (name, rest) ←
    match bytes with
    | [] => throw .truncated
    | b :: rest => if b = byte '"' then readText rest else throw .malformed
  match fields.find? fun field => field.name == name with
  | none =>
    let rest ← readColon rest
    let rest ← skipValue bound rest
    return (found, rest)
  | some field =>
    if (found.lookup name).isSome then throw .mismatched
    let rest ← readColon rest
    let (held, rest) ← field.kind.read rest
    return ((name, held) :: found, rest)

/-- Reads the members of an object up to its end. A member takes a byte at least, so the number of
bytes that are left bounds the number of members. -/
def readMembers (fields : List Field) : Nat → Bool → Found → List UInt8 → Parsed (List Held)
  | 0, _, _, _ => .error .truncated
  | bound + 1, isFirst, found, bytes =>
    match skipBlanks bytes with
    | [] => .error .truncated
    | b :: rest =>
      if b = byte '}' then (complete fields found).map fun held => (held, rest)
      else if !isFirst && b ≠ byte ',' then .error .malformed
      else
        match readMember fields bound found (if isFirst then b :: rest else skipBlanks rest) with
        | .error e => .error e
        | .ok (found, rest) => readMembers fields bound false found rest

/-! ## Records as lists -/

/-- Reads the end of a list. Behind a comma nothing is right any more. -/
def readListEnd (bytes : List UInt8) : Parsed Unit :=
  match skipBlanks bytes with
  | [] => .error .truncated
  | b :: rest => if b = byte ']' then .ok ((), rest) else .error .malformed

/-- What the fields hold that a list ended before. -/
def absentAll (fields : List Field) : Except Fault (List Held) :=
  complete fields []

/-- Reads the fields of a list in order, and the end of the list. -/
def readElements : List Field → Bool → List Held → List UInt8 → Parsed (List Held)
  | [], _, before, bytes => (readListEnd bytes).map fun (_, rest) => (before.reverse, rest)
  | field :: fields, isFirst, before, bytes =>
    match skipBlanks bytes with
    | [] => .error .truncated
    | b :: rest =>
      if b = byte ']' then
        (absentAll (field :: fields)).map fun held => (before.reverse ++ held, rest)
      else if !isFirst && b ≠ byte ',' then .error .malformed
      else
        match isFirst, skipBlanks rest with
        | false, [] => .error .truncated
        | _, next =>
          if !isFirst && next.head? = some (byte ']') then .error .malformed
          else
            match field.kind.read (if isFirst then b :: rest else next) with
            | .error e => .error e
            | .ok (held, rest) => readElements fields false (held :: before) rest

/-! ## Documents -/

def readRecord (fields : List Field) (document : List UInt8) : Parsed (List Held) :=
  match skipBlanks document with
  | [] => .error .truncated
  | b :: rest =>
    if b = byte '{' then readMembers fields (rest.length + 1) true [] rest
    else if b = byte '[' then readElements fields true [] rest
    else .error (otherKind (b :: rest))

def checkEnd (bytes : List UInt8) : Except Fault Unit :=
  if (skipBlanks bytes).isEmpty then .ok () else .error .malformed

end Json
end CacheService
