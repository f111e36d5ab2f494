import Indicator.Log
import Indicator.Warehouse.Reply
import Indicator.Warehouse.Time
import Indicator.Web.Credential

/-!
# Sessions

A session with the warehouse: the clock, the replies that are still to come, the exchanges so far
and the log. Time passes in two ways only, in a pause and while a request is under way. A request
that has no time left is not sent; one that is not answered within its time is given up when that
time is over, and its reply is lost.
-/

namespace Indicator.Warehouse

open Json (Document)

/-! ### Requests -/

/-- The parts of a submission that a client chooses. -/
structure Order where
  statement : String
  warehouseId : Document
  waitTimeout : Document

def Order.toDocument (order : Order) : Document :=
  .object [("statement", .str order.statement), ("warehouse_id", order.warehouseId),
    ("wait_timeout", order.waitTimeout), ("on_wait_timeout", .str "CONTINUE"),
    ("disposition", .str "INLINE"), ("format", .str "JSON_ARRAY")]

/-- What a request is sent for. -/
inductive Errand
  | submit (order : Order)
  | poll (statementId : String)
  | fetchChunk (link : String)
  | cancel (statementId : String)

def statementsPath : String := "/api/2.0/sql/statements"

namespace Errand

def method : Errand → String
  | submit _ | cancel _ => "POST"
  | poll _ | fetchChunk _ => "GET"

/-- The link that is asked for, before it is made an address. -/
def link : Errand → String
  | submit _ => statementsPath
  | poll id => statementsPath ++ "/" ++ id
  | fetchChunk link => link
  | cancel id => statementsPath ++ "/" ++ id ++ "/cancel"

def body? : Errand → Option Document
  | submit order => some order.toDocument
  | _ => none

/-- Checks that the body of a request can be written. -/
def checkBody (errand : Errand) : Except Fault Unit :=
  match errand.body? with
  | none => .ok ()
  | some body =>
    if !body.isFinite then .error .notFinite
    else match Text.Encoding.utf8.check body.write with
      | .error what => .error (.unencodable what)
      | .ok _ => .ok ()

end Errand

/-- Where requests go, and the credential they carry. -/
structure Connection where
  base : Web.Url
  authorization : String
deriving DecidableEq, Repr

/-- The credential of a request. One in the address itself takes the place of the usual one. -/
def Connection.credentialFor (connection : Connection) (url : Web.Url) : String :=
  url.credential?.getD connection.authorization

/-! ### Replies to come -/

/-- A reply and the time it takes; without one it comes at once. -/
structure Scheduled (τ : Type) where
  latency : Option τ
  reply : Reply

/-- The replies to come. The last one is given again and again; a reply to cancel requests may be
set apart from the others. -/
structure Script (τ : Type) where
  replies : List (Scheduled τ)
  cancelReply : Option (Scheduled τ)

/-- Whether a request reaches the address at which statements are cancelled. -/
def isCancel (errand : Errand) (url : Web.Url) : Bool :=
  errand.method = "POST" && url.plainPath.endsWith "/cancel"

/-- The next reply of a list, and those that follow it. -/
def nextReply {τ : Type} : List (Scheduled τ) → Scheduled τ × List (Scheduled τ)
  | [] => (⟨none, .notFound⟩, [])
  | [final] => (final, [final])
  | next :: rest => (next, rest)

/-- The reply to a request, and the script that is left. -/
def Script.next {τ : Type} (script : Script τ) (errand : Errand) (url : Web.Url) :
    Scheduled τ × Script τ :=
  match script.cancelReply, isCancel errand url with
  | some reply, true => (reply, script)
  | _, _ =>
    let (reply, rest) := nextReply script.replies
    (reply, { script with replies := rest })

/-! ### Exchanges -/

/-- How a request ends for the one who makes it. -/
inductive Answer
  | response (response : Response)
  | broken (reason : String)
  | timedOut
  | fault (fault : Fault)

/-- The statuses that lead on to another address. -/
def movedStatuses : List Int := [301, 302, 303, 307, 308]

/-- Checks the address that a response leads on to, though nothing follows it. One that is no
address breaks the exchange. -/
def checkMove (url : Web.Url) (response : Response) : Except Answer Unit :=
  match response.location with
  | none => .ok ()
  | some location =>
    if movedStatuses.contains response.status then
      match Web.Url.parse location.toList with
      | .error _ => .error (.broken "RemoteProtocolError")
      | .ok next => (url.checkNext next).mapError fun what => .fault (.badUrl what)
    else .ok ()

/-- The end of a request to an address that is answered by a reply. -/
def Answer.ofReply (url : Web.Url) : Reply → Answer
  | .response told =>
    match url.checkScheme, checkMove url told with
    | .error what, _ => .fault (.badUrl what)
    | _, .error answer => answer
    | .ok (), .ok () => .response told
  | .broken reason _ => .broken reason
  | .fault what => .fault what

/-- A request and how it ended. It has no address if it was not sent. -/
structure Exchange (τ : Type) where
  errand : Errand
  url : Option Web.Url
  authorization : String
  startedAt : τ
  endedAt : τ
  answer : Answer

/-! ### Sessions -/

structure Session (τ : Type) where
  now : τ
  script : Script τ
  exchanges : List (Exchange τ)
  log : List Record

namespace Session

variable {τ : Type} [Zero τ] [Add τ] [LT τ] [LE τ] [DecidableLT τ] [DecidableLE τ]

/-- The same session with nothing asked and nothing logged yet. -/
def fresh (s : Session τ) : Session τ := { s with exchanges := [], log := [] }

/-- Adds a record to the log. -/
def note (s : Session τ) (correlation : Option String) (event : Event) : Session τ :=
  { s with log := s.log ++ [⟨correlation, event⟩] }

/-- Waits for a duration, if it is positive. -/
def pause (s : Session τ) (duration : τ) : Session τ :=
  if 0 < duration then { s with now := s.now + duration } else s

/-- Whether a reply comes within a limit, and the time that the request takes. -/
def timeTaken (limit : τ) : Option τ → Bool × τ
  | none => (true, 0)
  | some latency => if latency < limit then (true, latency) else (false, limit)

/-- A request that is given up before it is sent. -/
def unsent (s : Session τ) (connection : Connection) (errand : Errand) (answer : Answer) :
    Exchange τ :=
  ⟨errand, none, connection.authorization, s.now, s.now, answer⟩

/-- The address of a request, once all of the request can be written. -/
def address (connection : Connection) (errand : Errand) : Except Fault Web.Url := do
  let url ← (connection.base.resolve errand.link).mapError .badUrl
  errand.checkBody
  (url.checkHost).mapError .badUrl
  return url

/-- The exchange that a request makes which may take no longer than `limit`, and the replies that
are still to come after it. -/
def exchange (s : Session τ) (connection : Connection) (limit : τ) (errand : Errand) :
    Exchange τ × Script τ :=
  if limit ≤ 0 then (s.unsent connection errand .timedOut, s.script)
  else match address connection errand with
    | .error fault => (s.unsent connection errand (.fault fault), s.script)
    | .ok url =>
      let (scheduled, script) := s.script.next errand url
      let (inTime, taken) := timeTaken limit scheduled.latency
      (⟨errand, some url, connection.credentialFor url, s.now, s.now + taken,
        if inTime then .ofReply url scheduled.reply else .timedOut⟩, script)

/-- Makes a request and waits for its end. -/
def ask (s : Session τ) (connection : Connection) (limit : τ) (errand : Errand) :
    Answer × Session τ :=
  let (exchange, script) := s.exchange connection limit errand
  (exchange.answer,
    { s with now := exchange.endedAt, script, exchanges := s.exchanges ++ [exchange] })

end Session

end Indicator.Warehouse
