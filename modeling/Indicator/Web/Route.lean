import Indicator.Web.Message

/-!
# Routes

The paths of the service with the methods they take. A path that differs from one of them in a
slash at its end leads there.
-/

namespace Indicator.Web

/-- What a route leads to. -/
inductive Endpoint
  | health
  | query
  | filters
  | documentation
  | description
deriving DecidableEq, Repr

structure Route where
  path : String
  methods : List String
  endpoint : Endpoint
deriving DecidableEq, Repr

/-- The routes; those of the documentation can be left out. -/
def routes (documented : Bool) : List Route :=
  (if documented then
    [⟨"/openapi.json", ["GET", "HEAD"], .description⟩,
      ⟨"/docs", ["GET", "HEAD"], .documentation⟩,
      ⟨"/docs/oauth2-redirect", ["GET", "HEAD"], .documentation⟩,
      ⟨"/redoc", ["GET", "HEAD"], .documentation⟩]
  else []) ++
    [⟨"/health", ["GET"], .health⟩, ⟨"/api/query", ["GET"], .health⟩,
      ⟨"/api/query", ["POST"], .query⟩, ⟨"/api/filters", ["POST"], .filters⟩]

/-- Where a request leads. -/
inductive Destination
  | endpoint (endpoint : Endpoint)
  /-- The path takes other methods. -/
  | wrongMethod (methods : List String)
  /-- The path with a slash more or less. -/
  | moved
  | nowhere
deriving DecidableEq, Repr

/-- A path with a slash added to its end, or with all slashes there taken away. -/
def otherSlash (path : String) : String :=
  if path.toList.getLast? = some '/' then Text.dropTrailing '/' path else path ++ "/"

def destination (routes : List Route) (method path : String) : Destination :=
  match routes.find? fun route => route.path = path && route.methods.contains method,
      routes.find? (·.path = path) with
  | some route, _ => .endpoint route.endpoint
  | none, some route => .wrongMethod route.methods
  | none, none =>
    if path ≠ "/" && routes.any (·.path = otherSlash path) then .moved else .nowhere

/-! ### Addresses -/

/-- The address of the service itself. -/
def serviceUrl : Url := ⟨"http", "", "service", none, "/", none, none⟩

/-- The address that a request is sent to. -/
def Incoming.url (request : Incoming) : Except UrlFault Url := serviceUrl.resolve request.target

/-- The path that a request asks for, without its query. -/
def Incoming.path (request : Incoming) : String :=
  match request.url with
  | .error _ => request.target
  | .ok url => url.plainPath

/-- Checks that a request can be sent. -/
def Incoming.check (request : Incoming) : Except Fault Unit := do
  let url ← request.url.mapError .badUrl
  (checkHeaders request.headers).mapError .unencodable
  match request.content with
  | .document value => if value.isFinite then pure () else .error .notFinite
  | _ => pure ()
  url.checkHost.mapError .badUrl

end Indicator.Web
