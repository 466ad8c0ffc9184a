import CacheService.Admin.Address
import CacheService.TextStore.Name

/-!
# Routes

The paths that the service answers, and what the methods of requests ask for there. Names in a path
are taken between slashes first and unescaped later. The last name of a path is not empty.
-/

namespace CacheService

/-- A path that the service answers, with the names in it. -/
inductive Route where
  | objects
  | object (key : String)
  | guarantee (key : String)
  | sweep
  | texts (textType : String)
  | text (textType id : String)
  | textAge (textType id : String)
  | stats
  | health
  deriving DecidableEq, Repr

namespace Route

def ofPath? (path : String) : Option Route :=
  match path.splitOn "/" with
  | ["", "objects"] => some .objects
  | ["", "objects", key] => if key.isEmpty then none else some (.object key)
  | ["", "objects", key, "guarantee"] => some (.guarantee key)
  | ["", "sweep"] => some .sweep
  | ["", "text", textType] => if textType.isEmpty then none else some (.texts textType)
  | ["", "text", textType, id] => if id.isEmpty then none else some (.text textType id)
  | ["", "text", textType, id, "age"] => some (.textAge textType id)
  | ["", "stats"] => some .stats
  | ["", "health"] => some .health
  | _ => none

end Route

inductive Method where
  | get
  | put
  | post
  | delete
  deriving DecidableEq, Repr

namespace Method

def isNameChar (c : Char) : Bool :=
  c.isAlphanum || "!#$%&'*+-.^_`|~".toList.contains c

def isName (s : String) : Bool :=
  !s.isEmpty && s.toList.all isNameChar

/-- The method of a name. Asking for the head alone is asking for the whole answer. -/
def ofName? (name : String) : Option Method :=
  if name = "GET" || name = "HEAD" then some get
  else if name = "PUT" then some put
  else if name = "POST" then some post
  else if name = "DELETE" then some delete
  else none

end Method

inductive Action where
  | putObject
  | resetObjects
  | getObject (key : String)
  | removeObject (key : String)
  | guarantee (key : String)
  | sweep
  | clearTexts (textType : String)
  | getText (key : TextKey)
  | putText (key : TextKey)
  | textAge (key : TextKey)
  | stats
  | health
  deriving DecidableEq, Repr

namespace Route

def action? : Route → Method → Option Action
  | objects, .put => some .putObject
  | objects, .delete => some .resetObjects
  | object key, .get => some (.getObject key)
  | object key, .delete => some (.removeObject key)
  | guarantee key, .post => some (.guarantee key)
  | sweep, .post => some .sweep
  | texts t, .delete => some (.clearTexts t)
  | text t id, .get => some (.getText ⟨t, id⟩)
  | text t id, .put => some (.putText ⟨t, id⟩)
  | textAge t id, .get => some (.textAge ⟨t, id⟩)
  | stats, .get => some .stats
  | health, .get => some .health
  | _, _ => none

end Route

namespace Action

def unescapeKey (key : TextKey) : Option TextKey := do
  return ⟨← Address.unescape key.textType, ← Address.unescape key.id⟩

/-- What is asked for with its names unescaped, if they are texts. -/
def unescape? : Action → Option Action
  | getObject key => (Address.unescape key).map getObject
  | removeObject key => (Address.unescape key).map removeObject
  | guarantee key => (Address.unescape key).map guarantee
  | clearTexts textType => (Address.unescape textType).map clearTexts
  | getText key => (unescapeKey key).map getText
  | putText key => (unescapeKey key).map putText
  | textAge key => (unescapeKey key).map textAge
  | action => some action

end Action
end CacheService
