import CacheService.Admin.Framework
import CacheService.Expiring.Store
import CacheService.TextStore.Fast

/-!
# The admin service

Objects and texts behind requests. What a request asks for and the body that goes with it are taken
from it by a framework (`Framework`). A request that the framework refuses changes nothing.
-/

namespace CacheService

structure Service where
  objects : ObjectStore String String
  texts : FastCache

/-- What the outside world shows while a request is answered. -/
structure Surroundings where
  /-- the clock of the objects, in milliseconds -/
  clock : UInt64
  /-- the part of the memory that is free -/
  free : Double
  /-- the time of day -/
  now : Instant

namespace Service

/-! ## Objects -/

def noObject (key : String) : Response :=
  .failure (.keyNotFound key "objects")

def putObject (w : Surroundings) (body : PutObject) (s : Service) : Response × Service :=
  match body.fault? with
  | some message => (.failure (.invalidRequest message), s)
  | none =>
    let lifetime := body.lifetime.map UInt64.ofNat
    let objects := s.objects.putAt w.clock body.key body.value lifetime
    (.ok (.stored body.key), { s with objects })

/-- Answers an object and the whole seconds left to it. -/
def getObject (w : Surroundings) (key : String) (s : Service) : Response × Service :=
  let (found, objects) := s.objects.get w.clock w.clock key
  let s := { s with objects }
  match found with
  | none => (noObject key, s)
  | some value =>
    let millis := s.objects.remainingAt w.clock key
    (.ok (.object key value (millis.map fun m => m.toNat / 1000)), s)

def removeObject (w : Surroundings) (key : String) (s : Service) : Response × Service :=
  let (found, objects) := s.objects.removeAt w.clock key
  let s := { s with objects }
  match found with
  | none => (noObject key, s)
  | some _ => (.ok (.removed 1), s)

def guarantee (w : Surroundings) (key : String) (body : Guarantee) (s : Service) :
    Response × Service :=
  let (found, objects) := s.objects.guaranteeAt w.clock key (UInt64.ofNat body.seconds)
  (.ok (.guaranteed key found), { s with objects })

def sweep (w : Surroundings) (s : Service) : Response × Service :=
  let (count, objects) := s.objects.clean w.clock
  (.ok (.removed count), { s with objects })

def resetObjects (s : Service) : Response × Service :=
  (.ok (.removed s.objects.size), { s with objects := s.objects.reset })

/-! ## Texts -/

def noText (key : TextKey) : Response :=
  .failure (.keyNotFound s!"{key.textType}/{key.id}" "texts")

def getText (w : Surroundings) (key : TextKey) (s : Service) : Response × Service :=
  let (outcome, texts) := s.texts.get (FastTier.tier w.free) key
  let s := { s with texts }
  match outcome with
  | .error e => (.failure e, s)
  | .ok none => (noText key, s)
  | .ok (some contents) => (.ok (.text key contents), s)

def putText (w : Surroundings) (key : TextKey) (contents : String) (s : Service) :
    Response × Service :=
  let (outcome, texts) := s.texts.put (FastTier.tier w.free) key contents
  let s := { s with texts }
  match outcome with
  | .error e => (.failure e, s)
  | .ok () => (.ok (.text key contents), s)

def textAge (key : TextKey) (s : Service) : Response × Service :=
  let (age, texts) := s.texts.onTier (FastTier.onFiles fun f => f.age key)
  let s := { s with texts }
  match age with
  | .error e => (.failure e, s)
  | .ok age =>
    let (modified, texts) := s.texts.onTier (FastTier.onFiles fun f => f.modified key)
    let s := { s with texts }
    match modified, age with
    | .error e, _ => (.failure e, s)
    | .ok _, none => (noText key, s)
    | .ok modified, some nanos => (.ok (.age key (nanos / 1000000000) modified), s)

def clearTexts (textType : String) (s : Service) : Response × Service :=
  let (outcome, texts) := s.texts.onTier (FastTier.clear textType)
  let s := { s with texts }
  match outcome with
  | .error e => (.failure e, s)
  | .ok count => (.ok (.cleared textType count), s)

def stats (s : Service) : Response :=
  let counts := s.texts.stats
  .ok (.stats s.objects.size s.texts.tier.memory.size counts.total counts.snapshot)

/-! ## Requests -/

variable {ρ : Type}

/-- Does what a request asks for, if its body is right. -/
def perform (web : Framework ρ) (w : Surroundings) (r : ρ) (action : Action) (s : Service) :
    Response × Service :=
  match action with
  | .putObject =>
    match web.putObject r with
    | .error refusal => (refusal, s)
    | .ok body => s.putObject w body
  | .resetObjects => s.resetObjects
  | .getObject key => s.getObject w key
  | .removeObject key => s.removeObject w key
  | .guarantee key =>
    match web.guarantee r with
    | .error refusal => (refusal, s)
    | .ok body => s.guarantee w key body
  | .sweep => s.sweep w
  | .clearTexts textType => s.clearTexts textType
  | .getText key => s.getText w key
  | .putText key =>
    match web.text r with
    | .error refusal => (refusal, s)
    | .ok contents => s.putText w key contents
  | .textAge key => s.textAge key
  | .stats => (s.stats, s)
  | .health => (.ok (.healthy w.now), s)

/-- Answers a request that a framework takes apart. -/
def respondIn (web : Framework ρ) (w : Surroundings) (r : ρ) (s : Service) : Response × Service :=
  match web.action r with
  | .error refusal => (refusal, s)
  | .ok action =>
    let (response, s) := s.perform web w r action
    (web.sent r response, s)

def respond (w : Surroundings) (r : Request) (s : Service) : Response × Service :=
  s.respondIn .http w r

end Service
end CacheService
