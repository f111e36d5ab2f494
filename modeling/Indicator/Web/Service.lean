import Indicator.Engine
import Indicator.Request.Reading
import Indicator.Web.Cors
import Indicator.Web.Route

/-!
# The service

The engine over the web. A request passes three layers: the one that answers other origins, the
one that ends a request which takes too long, and the one that serves it. Every request for an
answer that is well formed leaves one audit record, whatever becomes of it. A response that cannot
be written is a fault that nothing inside of the service answers.
-/

namespace Indicator.Web

open Json (Document Members)
open Warehouse (Session Stop)

/-- The time that a request may take. -/
inductive RequestLimit (τ : Type)
  | unlimited
  | seconds (limit : τ)
  /-- A limit that is no number. -/
  | unusable

/-- An engine on the web. The names of errors and the present time are handed in. The version is
told in every response; only a text can be told in a header. -/
structure Service (τ : Type) where
  engine : Engine τ
  version : Document
  isProduction : Bool
  requestLimit : RequestLimit τ
  origins : Cors.Origins
  errorId : String
  today : String

/-- How a request ends inside of the service. -/
inductive Served
  | response (response : Outgoing)
  /-- A fault that nothing inside of the service answers. -/
  | unhandled

/-- How deep the document of a response may be nested. -/
def maxHeight : Nat := 255

/-- A response, unless its document holds a lone surrogate. -/
def Served.ofResponse (response : Outgoing) : Served :=
  if response.isWhole then .response response else .unhandled

namespace Service

section

variable {τ : Type}

/-- The service that settings describe. -/
def ofSettings (settings : Settings τ) (errorId today : String) : Service τ where
  engine := .ofSettings settings
  version := .str settings.apiVersion
  isProduction := settings.isProduction
  requestLimit := .seconds settings.requestTimeout
  origins := .listed settings.allowedOrigins
  errorId
  today

/-- The response to a failure. -/
def failureResponse (service : Service τ) (failure : Failure) : Outgoing :=
  let details := failure.details
  (Outgoing.ofDocument failure.kind.status (.object [("ok", .bool false),
    ("version", service.version),
    ("error", .object ([("kind", .str failure.kind.code), ("message", .str failure.message),
      ("errorId", .str service.errorId)] ++
      if details.isEmpty then [] else [("details", .object details)]))])).setHeader
    "cache-control" "no-store"

/-- The response to a fault that nothing answers. -/
def faultResponse (service : Service τ) : Outgoing :=
  .ofDocument 500 (.object [("ok", .bool false), ("version", service.version),
    ("error", .object [("kind", .str Kind.internal.code),
      ("message", .str "Unexpected internal error"), ("errorId", .str service.errorId)])])

def healthResponse (service : Service τ) : Outgoing :=
  .ofDocument 200 (.object [("ok", .bool true), ("status", .str "ok"),
    ("service", .str "kpi-engine"), ("version", service.version), ("now", .str service.today)])

/-- A key with U+FFFD for each octet of a lone surrogate. -/
def wholeKey (key : String) : String :=
  String.ofList (key.toList.flatMap fun c =>
    if Text.isScalar c then [c] else List.replicate 3 Text.replacement)

/-- A payload sent back. -/
def pingDocument (service : Service τ) (received : Members) : Document :=
  let received := received.foldl (fun (members : Members) member =>
    members.insert (wholeKey member.1) member.2) []
  .object [("ok", .bool true), ("mode", .str "ping"), ("now", .str service.today),
    ("version", service.version), ("received", .object received)]

def answerDocument (service : Service τ) (answer : Document) : Document :=
  .object [("ok", .bool true), ("version", service.version), ("result", answer)]

/-- What may be told of a fault. In production nothing is; elsewhere a message that seems to show
a credential or shows the host is held back. -/
def publicMessage (service : Service τ) (message : String) : String :=
  let host := service.engine.client.host
  let shows (part text : String) := Text.occursIn part.toList text.toList
  let hidden := "Internal processing error"
  if service.isProduction then hidden
  else if shows "bearer" (Text.lower message) || shows "token" (Text.lower message) ||
      (host ≠ "" && shows host message) then hidden
  else message

/-- The failure that a caller is told of. -/
def failureOf (service : Service τ) : Stop → Failure
  | .failure failure => failure
  | .fault fault => .internal (service.publicMessage fault.message)
  | .unfinished => .internal (service.publicMessage "Execution was not finished")

/-- How the audit record tells of a failure. -/
def auditStatus (failure : Failure) : AuditStatus :=
  if failure.kind = .timeout then .timeout else .error

/-- A failure is logged where it is answered. -/
def fail (service : Service τ) (failure : Failure) (s : Session τ) : Served × Session τ :=
  (.ofResponse (service.failureResponse failure),
    s.note none (.failureHandled service.errorId failure.kind))

/-- Notes a fault that nothing inside of the service answers. -/
def noteUnhandled (service : Service τ) (s : Session τ) : Session τ :=
  s.note none (.faultUnhandled service.errorId)

/-- A payload that cannot be used is answered without a record. -/
def refusePayload (service : Service τ) : PayloadRefusal → Outgoing
  | .malformed position =>
    service.failureResponse (.malformedRequest [⟨["body", toString position], .jsonSyntax⟩])
  | .unreadable => .detail 400 "There was an error parsing the body"
  | .notObject => service.failureResponse (.malformedRequest [⟨["body"], .notDictionary⟩])

end

variable {τ : Type} [Zero τ] [Add τ] [Sub τ] [LT τ] [LE τ] [DecidableLT τ] [DecidableLE τ]
  [Timeline τ]

/-- The kind of answer that a request asks for: its name in the log, the document of an answer and
whether that document can be delivered. -/
structure Offer (α : Type) where
  operation : String
  toDocument : α → Document
  fits : α → Bool

/-- The answers for an indicator. -/
def kpiOffer (service : Service τ) : Offer KpiAnswer :=
  ⟨"kpi.query", KpiAnswer.toDocument, fun answer =>
    (service.answerDocument answer.toDocument).height ≤ maxHeight⟩

/-- The answers for options, of which each label counts by itself. -/
def optionsOffer : Offer OptionsAnswer :=
  ⟨"filters.options", OptionsAnswer.toDocument, fun answer =>
    answer.rows.all fun row => row.label.height ≤ maxHeight⟩

/-- Serves a request for an answer and leaves one audit record. An answer under a version that is
no text leaves another one, for the failure that it is turned into. -/
def audited {α : Type} (service : Service τ) (offer : Offer α) (subject : String)
    (correlation : Option String) (run : Session τ → Except Stop α × Session τ) (s : Session τ) :
    Served × Session τ :=
  let (outcome, ended) := run s
  match millisBetween s.now ended.now with
  | .error _ => (.unhandled, ended)
  | .ok elapsed =>
    let record (status : AuditStatus) (code : Option String) (s : Session τ) : Session τ :=
      s.note correlation (.audited ⟨offer.operation, subject, status, elapsed, code⟩)
    let failed (failure : Failure) (s : Session τ) : Served × Session τ :=
      service.fail failure (record (auditStatus failure) (some failure.kind.code) s)
    match outcome with
    | .error stop => failed (service.failureOf stop) ended
    | .ok answer =>
      let ended := record .ok none ended
      match service.version with
      | .str _ =>
        (if offer.fits answer then
          .ofResponse (.ofDocument 200 (service.answerDocument (offer.toDocument answer)))
        else .unhandled, ended)
      | _ => failed (.internal (service.publicMessage Complaint.notString.message)) ended

/-- Sends a payload back, if it can be written out. -/
def servePing (service : Service τ) (received : Members) : Served :=
  let answer := service.pingDocument received
  match service.version with
  | .str _ => if answer.height ≤ maxHeight then .ofResponse (.ofDocument 200 answer) else .unhandled
  | _ => .unhandled

/-- Serves a request for an indicator. A payload that asks for nothing but a sign of life is sent
back. -/
def serveQuery (service : Service τ) (correlation : Option String) (payload : Members)
    (s : Session τ) : Served × Session τ :=
  match payload.get? "ping" with
  | some (.bool true) => (service.servePing payload, s)
  | _ =>
    match fromPayload KpiRequest.ofDocument (.object payload) with
    | .error failure => service.fail failure s
    | .ok request =>
      service.audited service.kpiOffer request.kpi correlation
        (service.engine.answerKpi request correlation) s

/-- Serves a request for options. -/
def serveFilters (service : Service τ) (correlation : Option String) (payload : Members)
    (s : Session τ) : Served × Session τ :=
  match fromPayload OptionsRequest.ofDocument (.object payload) with
  | .error failure => service.fail failure s
  | .ok request =>
    service.audited optionsOffer (request.table ++ "." ++ request.dimension) correlation
      (service.engine.answerOptions request correlation) s

/-- Serves what a path leads to. -/
def serveEndpoint (service : Service τ) (request : Incoming) (s : Session τ) :
    Endpoint → Served × Session τ
  | .health => (.response service.healthResponse, s)
  | .documentation => (.response ⟨200, [("content-type", "text/html; charset=utf-8")], .html⟩, s)
  | .description => (.response (.ofDocument 200 (.object [])), s)
  | endpoint =>
    match request.payload with
    | .error refusal => (.response (service.refusePayload refusal), s)
    | .ok payload =>
      let correlation := header? request.headers "x-correlation-id"
      let payload := payload.getD []
      if endpoint = .query then service.serveQuery correlation payload s
      else service.serveFilters correlation payload s

/-- Serves a request. -/
def serve (service : Service τ) (request : Incoming) (s : Session τ) : Served × Session τ :=
  match destination (routes !service.isProduction) request.method request.path with
  | .endpoint endpoint => service.serveEndpoint request s endpoint
  | .wrongMethod methods =>
    (.response ((Outgoing.detail 405 "Method Not Allowed").setHeader "allow"
      (", ".intercalate methods)), s)
  | .moved => (.response ⟨307, [], .empty⟩, s)
  | .nowhere => (.response (.detail 404 "Not Found"), s)

/-- A response with the version in a header, which holds characters of one octet only. -/
def stamp (service : Service τ) : Served → Served
  | .unhandled => .unhandled
  | .response response =>
    match service.version with
    | .str version =>
      if version.toList.all (·.toNat < 0x100) then
        .response ((response.setHeader "x-mc-version" version).addHeader "cache-control" "no-store")
      else .unhandled
    | _ => .unhandled

/-- Serves a request within the time that it may take. One that takes longer is answered at once,
but its work is done to the end. -/
def serveInTime (service : Service τ) (request : Incoming) (s : Session τ) : Served × Session τ :=
  let late := Served.response (service.failureResponse .requestTimeout)
  match service.requestLimit with
  | .unusable => (.unhandled, s)
  | .unlimited =>
    let (served, ended) := service.serve request s
    (service.stamp served, ended)
  | .seconds limit =>
    if limit ≤ 0 then (late, s)
    else
      let (served, ended) := service.serve request s
      if limit ≤ ended.now - s.now then
        (late, match served with
          | .unhandled => service.noteUnhandled ended
          | .response _ => ended)
      else (service.stamp served, ended)

/-- Answers a request. -/
def answer (service : Service τ) (request : Incoming) (s : Session τ) : Outgoing × Session τ :=
  match Cors.question? request with
  | some question => (Cors.preflight service.origins question, s)
  | none =>
    match service.serveInTime request s with
    | (.unhandled, s) => (service.faultResponse, service.noteUnhandled s)
    | (.response response, s) =>
      match header? request.headers "origin" with
      | none => (response, s)
      | some origin => (Cors.mark service.origins origin response, s)

end Service

end Indicator.Web
