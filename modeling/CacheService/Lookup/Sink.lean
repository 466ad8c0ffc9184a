import CacheService.Error
import CacheService.Text.Utf8

/-!
# Sinks

Where a dump is written to. A sink takes as many bytes as it has room for and then refuses the rest.
-/

namespace CacheService

structure Sink where
  /-- how many bytes it takes in all, if there is a limit -/
  limit : Option Nat := none
  flushFails : Bool := false
  received : List UInt8 := []

namespace Sink

def fitting (s : Sink) (bytes : List UInt8) : Nat :=
  match s.limit with
  | none => bytes.length
  | some limit => min bytes.length (limit - s.received.length)

/-- Writes a text. What fits is taken even if not all of it fits. -/
def write (s : Sink) (text : String) : Outcome Unit × Sink :=
  let bytes := Text.bytes text
  let taken := s.fitting bytes
  let outcome := if taken < bytes.length then .error (.sink (.other "sink full")) else .ok ()
  (outcome, { s with received := s.received ++ bytes.take taken })

/-- Writes texts one after the other, up to the first failure. -/
def writeAll (s : Sink) : List String → Outcome Unit × Sink
  | [] => (.ok (), s)
  | text :: rest =>
    match s.write text with
    | (.error e, s) => (.error e, s)
    | (.ok (), s) => s.writeAll rest

def flush (s : Sink) : Outcome Unit :=
  if s.flushFails then .error (.sink (.other "flush failed")) else .ok ()

def print (s : Sink) (texts : List String) : Outcome Unit × Sink :=
  match s.writeAll texts with
  | (.error e, s) => (.error e, s)
  | (.ok (), s) => (s.flush, s)

end Sink
end CacheService
