import CacheService.Json.Number
import CacheService.Text.Utf8

/-!
# Texts in JSON documents

Reads a text behind its opening quote. Controls stand in a text only as escapes, and an escape of
four hexadecimal digits that is half of a pair needs the other half behind it. A text that is
skipped is only looked at for its end and for the form of its escapes.
-/

namespace CacheService
namespace Json

def hexValue? (b : UInt8) : Option Nat :=
  if isDigit b then some (digitValue b)
  else if byte 'a' ≤ b && b ≤ byte 'f' then some (b.toNat - (byte 'a').toNat + 10)
  else if byte 'A' ≤ b && b ≤ byte 'F' then some (b.toNat - (byte 'A').toNat + 10)
  else none

def hexNumber? (a b c d : UInt8) : Option Nat := do
  return (((← hexValue? a) * 16 + (← hexValue? b)) * 16 + (← hexValue? c)) * 16 + (← hexValue? d)

def shortEscape? (b : UInt8) : Option Char :=
  if b = byte '"' then some '"'
  else if b = byte '\\' then some '\\'
  else if b = byte '/' then some '/'
  else if b = byte 'b' then some '\x08'
  else if b = byte 'f' then some '\x0c'
  else if b = byte 'n' then some '\n'
  else if b = byte 'r' then some '\r'
  else if b = byte 't' then some '\t'
  else none

/-- Whether a number is the first half of a pair. -/
def isHighHalf (n : Nat) : Bool :=
  0xD800 ≤ n && n ≤ 0xDBFF

def isLowHalf (n : Nat) : Bool :=
  0xDC00 ≤ n && n ≤ 0xDFFF

def ofHalves (high low : Nat) : Char :=
  Char.ofNat (0x10000 + (high - 0xD800) * 0x400 + (low - 0xDC00))

/-- The second half of a pair, of the six bytes of an escape. -/
def lowHalf? (s u a b c d : UInt8) : Option Nat :=
  if s = byte '\\' && u = byte 'u' then (hexNumber? a b c d).filter isLowHalf else none

/-- The fault of less than six bytes behind the first half of a pair. -/
def cutPairFault : List UInt8 → Fault
  | [] => .truncated
  | s :: rest =>
    if s ≠ byte '\\' then .malformed
    else
      match rest with
      | [] => .truncated
      | u :: _ => if u ≠ byte 'u' then .malformed else .truncated

/-- The bytes of a character, put in front of bytes that are kept latest first. -/
def pushChar (before : List UInt8) (c : Char) : List UInt8 :=
  (Text.bytes (String.singleton c)).reverse ++ before

/-- Reads a text up to its closing quote, given the bytes before, latest first. -/
def readTextFrom (before : List UInt8) : List UInt8 → Parsed String
  | [] => .error .truncated
  | b :: rest =>
    if b = byte '"' then
      match Text.ofBytes? before.reverse with
      | some s => .ok (s, rest)
      | none => .error .malformed
    else if b < 0x20 then .error .malformed
    else if b ≠ byte '\\' then readTextFrom (b :: before) rest
    else
      match rest with
      | [] => .error .truncated
      | e :: rest =>
        match shortEscape? e with
        | some c => readTextFrom (pushChar before c) rest
        | none =>
          if e ≠ byte 'u' then .error .malformed
          else
            match rest with
            | a :: b :: c :: d :: rest =>
              match hexNumber? a b c d with
              | none => .error .malformed
              | some n =>
                if isLowHalf n then .error .malformed
                else if !isHighHalf n then readTextFrom (pushChar before (Char.ofNat n)) rest
                else
                  match rest with
                  | s :: u :: a :: b :: c :: d :: rest =>
                    match lowHalf? s u a b c d with
                    | some low => readTextFrom (pushChar before (ofHalves n low)) rest
                    | none => .error .malformed
                  | rest => .error (cutPairFault rest)
            | _ => .error .truncated

def readText (bytes : List UInt8) : Parsed String :=
  readTextFrom [] bytes

def skipText : List UInt8 → Except Fault (List UInt8)
  | [] => .error .truncated
  | b :: rest =>
    if b = byte '"' then .ok rest
    else if b < 0x20 then .error .malformed
    else if b ≠ byte '\\' then skipText rest
    else
      match rest with
      | [] => .error .truncated
      | e :: rest =>
        if (shortEscape? e).isSome then skipText rest
        else if e ≠ byte 'u' then .error .malformed
        else
          match rest with
          | a :: b :: c :: d :: rest =>
            if (hexNumber? a b c d).isSome then skipText rest else .error .malformed
          | _ => .error .truncated

end Json
end CacheService
