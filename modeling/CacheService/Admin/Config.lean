import CacheService.Number.Reading
import CacheService.Text.Utf8

/-!
# Configuration

The settings of the service, taken from named variables. A variable that is not set, is no text, or
does not read as a value of its kind leaves the setting at its default.
-/

namespace CacheService

structure Config where
  /-- the root directory of the texts -/
  textRoot : String := "./text_cache"
  /-- the lifetime of objects in seconds -/
  defaultLifetime : Nat := 300
  /-- reads between sweeps -/
  sweepEvery : Nat := 10000
  /-- seconds between sweeps in the background, zero for none -/
  sweepInterval : Nat := 60
  /-- the part of the memory that must be free for copies of texts -/
  minFree : Double := ⟨0x3FE0000000000000⟩
  /-- the socket number at which the service listens -/
  listensAt : Nat := 3000
  deriving DecidableEq, Repr

namespace Config

/-- The values of variables, as bytes. -/
abbrev Environment : Type :=
  String → Option (List UInt8)

def Environment.text? (env : Environment) (name : String) : Option String :=
  (env name).bind Text.ofBytes?

/-- A variable that holds a whole number of 64 bits. -/
def Environment.nat? (env : Environment) (name : String) : Option Nat :=
  (env.text? name).bind (Reading.nat? UInt64.size)

/-- Whether a number is a part of a whole. -/
def isFraction (x : Double) : Bool :=
  (Double.ofNat 0).le x && x.le (.ofNat 1)

def ofEnvironment (env : Environment) : Config :=
  let default : Config := {}
  { textRoot := ((env.text? "TEXT_CACHE_DIR").filter (! ·.isEmpty)).getD default.textRoot
    defaultLifetime := (env.nat? "DEFAULT_LIFETIME").getD default.defaultLifetime
    sweepEvery := ((env.nat? "SWEEP_EVERY").filter (0 < ·)).getD default.sweepEvery
    sweepInterval := (env.nat? "CLEANUP_INTERVAL").getD default.sweepInterval
    minFree :=
      (((env.text? "MEMORY_FREE_RATIO").bind Reading.double?).filter isFraction).getD
        default.minFree
    listensAt :=
      ((env.text? "SERVER_PORT").bind (Reading.nat? UInt16.size)).getD default.listensAt }

end Config
end CacheService
