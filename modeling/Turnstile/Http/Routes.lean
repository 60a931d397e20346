import Turnstile.Claims.Wire
import Turnstile.Counters.Wire
import Turnstile.Http.Bearer
import Turnstile.Service
set_option autoImplicit false

/-! The routes of the service and how it answers them. Paths are matched as they are
written. One route asks for an administrator; one shows the claims of any bearer,
and there the bearer is known before the method of the request is looked at. -/

namespace Turnstile.Http

inductive Route where
  | health
  | status
  | restricted
  | self
  deriving DecidableEq, Repr

namespace Route

def ofPath? (path : String) : Option Route :=
  if path = "/health" then some health
  else if path = "/v1/test" then some status
  else if path = "/v1/test/auth" then some restricted
  else if path = "/v1/me" then some self
  else none

end Route

structure Answer where
  status : Nat
  body : Option Json

namespace Answer

def ok (body : Json) : Answer := ⟨200, some body⟩

def empty (status : Nat) : Answer := ⟨status, none⟩

def refusal (error : AccessError) : Answer := ⟨error.status, some error.body⟩

end Answer

def statusBody : Json := .object [("status", .string "OK")]

def healthBody (service : Service) : Json :=
  .object [("status", .string "ok"),
    ("keys", .array (service.access.keys.kids.map Json.string)),
    ("decisions", service.counters.toJson)]

/-- The claims of a bearer: those that are known, or else those of the credential in
the headers. -/
def authenticateBearer (service : Service) (moment : Moment) (request : Request) :
    Except AccessError Claims × Service :=
  match request.bearer with
  | some claims => (.ok claims, service)
  | none =>
      match bearerToken request.headers with
      | .error error => (.error error, service)
      | .ok token => service.authenticate moment.authentication moment.now token

def authorizeBearer (service : Service) (moment : Moment) (rule : AccessRule)
    (request : Request) : Except AccessError Claims × Service :=
  match authenticateBearer service moment request with
  | (.error error, service) => (.error error, service)
  | (.ok claims, service) =>
      match service.authorize moment.authorization claims rule with
      | (.ok (), service) => (.ok claims, service)
      | (.error error, service) => (.error error, service)

/-- Let a request pass once its bearer is known. -/
def withBearer (service : Service) (moment : Moment) (request : Request)
    (next : Service → Request → Answer × Service) : Answer × Service :=
  match bearerToken request.headers with
  | .error error => (.refusal error, service)
  | .ok token =>
      match service.authenticate moment.authentication moment.now token with
      | (.error error, service) => (.refusal error, service)
      | (.ok claims, service) => next service { request with bearer := some claims }

namespace Route

def fetch (route : Route) (service : Service) (moment : Moment) (request : Request) :
    Answer × Service :=
  match route with
  | health => (.ok (healthBody service), service)
  | status => (.ok statusBody, service)
  | restricted =>
      match authorizeBearer service moment .adminOnly request with
      | (.error error, service) => (.refusal error, service)
      | (.ok _, service) => (.ok statusBody, service)
  | self =>
      match authorizeBearer service moment .any request with
      | (.error error, service) => (.refusal error, service)
      | (.ok claims, service) => (.ok claims.toJson, service)

def byMethod (route : Route) (service : Service) (moment : Moment) (request : Request) :
    Answer × Service :=
  match request.method with
  | .get | .head => route.fetch service moment request
  | _ => (.empty 405, service)

def answer (route : Route) (service : Service) (moment : Moment) (request : Request) :
    Answer × Service :=
  match route with
  | self => withBearer service moment request fun service request =>
      self.byMethod service moment request
  | route => route.byMethod service moment request

end Route

def knownMethods : String := "GET,HEAD"

def allowFor : Method → Option String
  | .get | .head => none
  | _ => some knownMethods

def answer (service : Service) (moment : Moment) (request : Request) :
    Answer × Option String × Service :=
  match Route.ofPath? request.path with
  | none =>
      (.empty (if request.method = .options then 200 else 404), none, service)
  | some route =>
      let (answer, service) :=
        if request.method = .options then (.empty 200, service)
        else route.answer service moment request
      (answer, allowFor request.method, service)

def requestIdHeader : String := "x-request-id"

/-- Respond to a request. A request without an identifier gets a fresh one, and the
head of a content is sent without it. -/
def respond (service : Service) (moment : Moment) (freshId : String) (request : Request) :
    Response × Service :=
  let (answer, allow, service) := answer service moment request
  ({ status := answer.status
     contentType := answer.body.map fun _ => "application/json"
     allow := allow
     requestId := (request.headers.first? requestIdHeader).getD (Utf8.encode freshId)
     body := if request.method = .head then none else answer.body }, service)

end Turnstile.Http
