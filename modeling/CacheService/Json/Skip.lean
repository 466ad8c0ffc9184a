import CacheService.Json.Text

/-!
# Skipping values

Skips a value of a document that nobody asked for, however deep it is nested.
-/

namespace CacheService
namespace Json

def isBlank (b : UInt8) : Bool :=
  b = byte ' ' || b = byte '\n' || b = byte '\t' || b = byte '\r'

def skipBlanks (bytes : List UInt8) : List UInt8 :=
  bytes.dropWhile isBlank

def readWord (word : String) (bytes : List UInt8) : Except Fault (List UInt8) :=
  let expected := word.toList.map byte
  let found := bytes.take expected.length
  if found = expected then .ok (bytes.drop expected.length)
  else if found.isPrefixOf expected then .error .truncated
  else .error .malformed

/-- Skips a value that is no list and no object. -/
def skipScalar (b : UInt8) (rest : List UInt8) : Except Fault (List UInt8) :=
  if b = byte 'n' then readWord "ull" rest
  else if b = byte 't' then readWord "rue" rest
  else if b = byte 'f' then readWord "alse" rest
  else if b = byte '-' then skipNumber rest
  else if isDigit b then skipNumber (b :: rest)
  else if b = byte '"' then skipText rest
  else .error .malformed

inductive Frame where
  | list
  | object
  deriving DecidableEq

namespace Frame

def closer : Frame → UInt8
  | list => byte ']'
  | object => byte '}'

def opened? (b : UInt8) : Option Frame :=
  if b = byte '[' then some list else if b = byte '{' then some object else none

end Frame

inductive Expectation where
  /-- a value -/
  | value
  /-- the name of a member and its value -/
  | member
  /-- the first part of a frame, or its end -/
  | first
  /-- a comma and a further part, or the end of the frame -/
  | more

def Frame.part : Frame → Expectation
  | list => .value
  | object => .member

def skipName (bytes : List UInt8) : Except Fault (List UInt8) :=
  match bytes with
  | [] => .error .truncated
  | b :: rest =>
    if b ≠ byte '"' then .error .malformed
    else
      match skipText rest with
      | .error e => .error e
      | .ok rest =>
        match skipBlanks rest with
        | [] => .error .truncated
        | c :: rest => if c = byte ':' then .ok rest else .error .malformed

/-- Skips what is to come in the frames that are open, innermost first. -/
def skipFrom : Nat → List Frame → Expectation → List UInt8 → Except Fault (List UInt8)
  | 0, _, _, _ => .error .truncated
  | bound + 1, frames, expected, bytes =>
    match frames, expected, skipBlanks bytes with
    | [], .more, _ => .ok bytes
    | [], .first, _ => .ok bytes
    | _, _, [] => .error .truncated
    | frames, .value, b :: rest =>
      match Frame.opened? b with
      | some frame => skipFrom bound (frame :: frames) .first rest
      | none =>
        match skipScalar b rest with
        | .error e => .error e
        | .ok rest => skipFrom bound frames .more rest
    | frames, .member, b :: rest =>
      match skipName (b :: rest) with
      | .error e => .error e
      | .ok rest => skipFrom bound frames .value rest
    | frame :: outer, .first, b :: rest =>
      if b = frame.closer then skipFrom bound outer .more rest
      else skipFrom bound (frame :: outer) frame.part (b :: rest)
    | frame :: outer, .more, b :: rest =>
      if b = frame.closer then skipFrom bound outer .more rest
      else if b = byte ',' then skipFrom bound (frame :: outer) frame.part rest
      else .error .malformed

/-- Skips one value of so many bytes at most. A byte is passed in at most two steps. -/
def skipValue (bound : Nat) (bytes : List UInt8) : Except Fault (List UInt8) :=
  skipFrom (2 * bound + 2) [] .value bytes

end Json
end CacheService
