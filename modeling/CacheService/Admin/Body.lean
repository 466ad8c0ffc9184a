import CacheService.Json.Record

/-!
# Bodies of requests

The records that requests carry, and what is asked of them beyond their form.
-/

namespace CacheService

structure PutObject where
  key : String
  value : String
  /-- the lifetime in seconds, or the default one -/
  lifetime : Option Nat
  deriving DecidableEq, Repr

namespace PutObject

def fields : List Json.Field := [
  { name := "key", kind := .text },
  { name := "value", kind := .text },
  { name := "lifetime", kind := .optionalNatural }]

def ofHeld : List Json.Held → Except Json.Fault PutObject
  | [.text key, .text value, .natural lifetime] => .ok { key, value, lifetime := some lifetime }
  | [.text key, .text value, .nothing] => .ok { key, value, lifetime := none }
  | _ => .error .mismatched

def read (document : List UInt8) : Json.Parsed PutObject :=
  match Json.readRecord fields document with
  | .error e => .error e
  | .ok (held, rest) => (ofHeld held).map fun body => (body, rest)

/-- What is wrong with a body that is well formed. -/
def fault? (body : PutObject) : Option String :=
  if body.key.isEmpty then some "Key cannot be empty" else none

end PutObject

/-- The body of a request that an object stay for a while. -/
structure Guarantee where
  /-- seconds from now -/
  seconds : Nat
  deriving DecidableEq, Repr

namespace Guarantee

def fields : List Json.Field := [{ name := "min_lifetime", kind := .natural }]

def ofHeld : List Json.Held → Except Json.Fault Guarantee
  | [.natural seconds] => .ok { seconds }
  | _ => .error .mismatched

def read (document : List UInt8) : Json.Parsed Guarantee :=
  match Json.readRecord fields document with
  | .error e => .error e
  | .ok (held, rest) => (ofHeld held).map fun body => (body, rest)

end Guarantee

namespace Json

def whole {α : Type} (r : Parsed α) : Except Fault α :=
  match r with
  | .error e => .error e
  | .ok (body, rest) => (checkEnd rest).map fun _ => body

end Json
end CacheService
