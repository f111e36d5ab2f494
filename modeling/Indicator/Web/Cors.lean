import Indicator.Web.Message

/-!
# Requests from other origins

A page of another origin may use the service if its origin is listed. Before such a request a
browser asks whether it may send it; that question is answered for any path, with all that is
wrong about it.
-/

namespace Indicator.Web

namespace Cors

def allowedMethods : List String := ["GET", "POST", "OPTIONS"]

def allowedHeaders : List String :=
  ["Accept", "Accept-Language", "Authorization", "Content-Language", "Content-Type",
    "x-correlation-id", "x-mc-api", "x-mc-version"]

/-- The origins that may use the service. -/
inductive Origins
  | listed (origins : List String)
  /-- All texts that are part of a text. -/
  | within (text : String)

def Origins.holds : Origins → String → Bool
  | listed origins, origin => origins.contains origin
  | within text, origin => Text.occursIn origin.toList text.toList

/-- Whether any origin may use the service. -/
def allowsAll (origins : Origins) : Bool := origins.holds "*"

def allows (origins : Origins) (origin : String) : Bool := allowsAll origins || origins.holds origin

/-- Whether all headers of a list are allowed, in any letter case. -/
def allowsHeaders (requested : String) : Bool :=
  (splitAt ',' (Text.lower requested).toList).all fun name =>
    (allowedHeaders.map Text.lowerAscii).contains
      (String.ofList (Text.trimBy Text.isBlank name))

/-- What a browser wants to know about a request. -/
structure Question where
  origin : String
  method : String
  headers : Option String
  /-- Whether the request would go from a public network to a private one. -/
  reachesInside : Bool

/-- What is wrong about a request that a browser asks for. -/
def failures (origins : Origins) (question : Question) : List String :=
  (if allows origins question.origin then [] else ["origin"]) ++
    (if allowedMethods.contains question.method then [] else ["method"]) ++
    (if (question.headers.map allowsHeaders).getD true then [] else ["headers"]) ++
    (if question.reachesInside then ["private-network"] else [])

/-- The origin that a response names, if it may use the service. -/
def allowOrigin (origins : Origins) (origin : String) : Headers :=
  if allowsAll origins then [("access-control-allow-origin", "*")]
  else if origins.holds origin then [("access-control-allow-origin", origin)]
  else []

/-- The answer to the question of a browser. -/
def preflight (origins : Origins) (question : Question) : Outgoing :=
  let response :=
    match failures origins question with
    | [] => Outgoing.ofText 200 "OK"
    | wrong => Outgoing.ofText 400 ("Disallowed CORS " ++ ", ".intercalate wrong)
  { response with
    headers := response.headers ++ allowOrigin origins question.origin ++
      [("access-control-allow-methods", ", ".intercalate allowedMethods),
        ("access-control-max-age", "86400"),
        ("access-control-allow-headers", ", ".intercalate allowedHeaders)] }

/-- The question of a request, if it asks one. -/
def question? (request : Incoming) : Option Question :=
  let header? := header? request.headers
  match request.method, header? "origin", header? "access-control-request-method" with
  | "OPTIONS", some origin, some method =>
    some ⟨origin, method, header? "access-control-request-headers",
      (header? "access-control-request-private-network").isSome⟩
  | _, _, _ => none

/-- A response to a request from another origin. -/
def mark (origins : Origins) (origin : String) (response : Outgoing) : Outgoing :=
  { response with
    headers := response.headers ++ allowOrigin origins origin ++
      [("access-control-expose-headers", "x-mc-version")] }

end Cors

end Indicator.Web
