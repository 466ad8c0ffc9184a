import CacheService.Admin.Body
import CacheService.Admin.MediaType
import CacheService.Admin.Reply
import CacheService.Admin.Route

/-!
# What a web framework takes from requests

The service is behind a web framework, which takes from a request what the service is asked for and
the body that goes with it, or refuses the request with a response of its own. `Framework` is what
the service relies on, for requests of any kind. `Framework.http` is the framework that it runs in:
it looks at a request from the outside in, at its method and address first, then at its route, at
the names in its path, and at its body last. The first of these that is not right decides the
answer.
-/

namespace CacheService

structure Request where
  method : String
  address : String
  /-- the media type of the body -/
  contentType : Option String
  body : List UInt8

namespace Request

def longestBody : Nat :=
  2097152

/-- Whether the method, the address and the type of the body can be sent at all. -/
def isSendable (r : Request) : Bool :=
  Method.isName r.method && (Address.path? r.address).isSome
    && r.contentType.all MediaType.isSendable

/-- The status that refuses a JSON body. -/
def faultStatus : Json.Fault → Nat
  | .truncated => 400
  | .malformed => 400
  | .mismatched => 422

/-- The body as a record, or the status that refuses it. What stands behind the record is not looked
at. -/
def json {α : Type} (r : Request) (read : List UInt8 → Json.Parsed α) : Except Nat α :=
  if !(r.contentType.any MediaType.isJson) then .error 415
  else if longestBody < r.body.length then .error 413
  else
    match read r.body with
    | .ok (body, _) => .ok body
    | .error e => .error (faultStatus e)

def text (r : Request) : Except Nat String :=
  if longestBody < r.body.length then .error 413
  else
    match Text.ofBytes? r.body with
    | some s => .ok s
    | none => .error 400

def route (r : Request) : Except Nat Action :=
  match (Address.path? r.address).bind Route.ofPath? with
  | none => .error 404
  | some route =>
    match (Method.ofName? r.method).bind route.action? with
    | none => .error 405
    | some action =>
      match action.unescape? with
      | none => .error 400
      | some action => .ok action

/-- Asking for the options is answered on any path. All else has a route. -/
def action (r : Request) : Except Response Action :=
  if r.method = "OPTIONS" then .error (.bare 200) else r.route.mapError Response.bare

/-- What is sent of an answer: to a request for the head alone nothing is said. -/
def sent (r : Request) (answer : Response) : Response :=
  if r.method = "HEAD" then .bare answer.status else answer

end Request

/-- What is taken from requests of type `ρ`: arguments, or the response that refuses them. -/
structure Framework (ρ : Type) where
  action : ρ → Except Response Action
  putObject : ρ → Except Response PutObject
  guarantee : ρ → Except Response Guarantee
  text : ρ → Except Response String
  /-- what is sent of an answer -/
  sent : ρ → Response → Response
  status_sent : ∀ r answer, (sent r answer).status = answer.status

def Framework.http : Framework Request where
  action := Request.action
  putObject r := (r.json PutObject.read).mapError Response.bare
  guarantee r := (r.json Guarantee.read).mapError Response.bare
  text r := r.text.mapError Response.bare
  sent := Request.sent
  status_sent r answer := by
    unfold Request.sent
    split <;> rfl

end CacheService
