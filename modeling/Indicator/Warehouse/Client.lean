import Indicator.Warehouse.Handle
import Indicator.Warehouse.Session

/-!
# The client of the warehouse

The single actions of a client: to submit a statement, to ask for its state and to cancel it. A
deadline is an instant; a request never runs past it, nor longer than the client's own limit.
-/

namespace Indicator.Warehouse

open Json (Document)

structure Client (τ : Type) where
  host : String
  token : String
  warehouseId : Document
  waitTimeout : Document
  showsStatement : Bool
  httpTimeout : τ

/-- Why an action has no result. -/
inductive Stop
  | failure (failure : Failure)
  | fault (fault : Fault)
  /-- The steps that were granted did not suffice. -/
  | unfinished
deriving DecidableEq, Repr

/-- A host without blanks around it and slashes after it, under a scheme. -/
def normalHost (host : String) : String :=
  let bare := Text.dropTrailing '/' (Text.trim host)
  if bare = "" ∨ Text.occursIn "://".toList bare.toList then bare else "https://" ++ bare

namespace Client

section

variable {τ : Type}

/-- The host, the token and the warehouse, each as far as it is told. -/
def checkConfigured (client : Client τ) : Except Failure Unit :=
  let hasHost := normalHost client.host ≠ ""
  let hasToken := client.token ≠ ""
  let hasWarehouse := client.warehouseId.truthy
  if hasHost && hasToken && hasWarehouse then .ok ()
  else .error (.notConfigured hasHost hasToken hasWarehouse)

def credential (client : Client τ) : String := "Bearer " ++ client.token

/-- The connection of a client. A header is written in ASCII. -/
def connect (client : Client τ) : Except Fault Connection := do
  let base ← (Web.Url.parseBase (normalHost client.host)).mapError .badUrl
  let authorization ← (Text.Encoding.ascii.check client.credential).mapError .unencodable
  return ⟨base, authorization⟩

/-- The statement, where errors may show it. -/
def shown (client : Client τ) (statement : String) : Option String :=
  if client.showsStatement then some statement else none

/-- The document that a response brings. A status of 400 or more refuses the request, and shows
`statement` only where the request itself is to blame. -/
def accept (phase : Phase) (statement : Option String) (response : Response) :
    Except Stop Document :=
  if 400 ≤ response.status then
    let isServer := 500 ≤ response.status || response.status = 429
    match response.message with
    | .error fault => .error (.fault fault)
    | .ok message => .error (.failure
        (.refused phase response.status message (if isServer then none else statement)))
  else match response.body.document with
    | .ok document => .ok document
    | .error (.tooDeep what) => .error (.fault (.tooDeep what))
    | .error _ => .error (.failure (.breach (.notJson phase)))

end

variable {τ : Type} [Zero τ] [Add τ] [Sub τ] [LT τ] [LE τ] [DecidableLT τ] [DecidableLE τ]
  [Timeline τ]

/-- The time a request may take, and whether the deadline is what bounds it. -/
def limitAt (client : Client τ) (deadline : Option τ) (now : τ) : τ × Bool :=
  match deadline with
  | none => (client.httpTimeout, false)
  | some deadline =>
    let remaining := later 0 (deadline - now)
    if remaining < client.httpTimeout then (remaining, true) else (client.httpTimeout, false)

/-- Sends a request within the time that is left. -/
def send (client : Client τ) (connection : Connection) (deadline : Option τ) (phase : Phase)
    (errand : Errand) (s : Session τ) : Except Stop Response × Session τ :=
  let (limit, bounded) := client.limitAt deadline s.now
  match s.ask connection limit errand with
  | (.response response, s) => (.ok response, s)
  | (.broken reason, s) => (.error (.failure (.unreachable phase reason)), s)
  | (.fault fault, s) => (.error (.fault fault), s)
  | (.timedOut, s) =>
    (.error (.failure (if bounded then .pastDeadline phase
      else .timedOut phase (Timeline.brief limit))), s)

/-- Sends a request and reads the document of the response. -/
def request (client : Client τ) (connection : Connection) (deadline : Option τ) (phase : Phase)
    (errand : Errand) (statement : Option String) (s : Session τ) :
    Except Stop Document × Session τ :=
  match client.send connection deadline phase errand s with
  | (.error stop, s) => (.error stop, s)
  | (.ok response, s) => (accept phase statement response, s)

/-- The handle in an answer. -/
def readHandle (known : Option String) (answer : Document) : Except Stop Handle :=
  (Handle.read answer known).mapError fun breach => .failure (.breach breach)

def order (client : Client τ) (statement : String) : Order :=
  ⟨statement, client.warehouseId, client.waitTimeout⟩

/-- Submits a statement. One that fails at once is rejected. -/
def submit (client : Client τ) (connection : Connection) (deadline : Option τ)
    (correlation : Option String) (statement : String) (s : Session τ) :
    Except Stop Handle × Session τ :=
  let answer := client.request connection deadline .submit (.submit (client.order statement))
    (client.shown statement) s
  match answer.1 >>= readHandle none with
  | .error stop => (.error stop, answer.2)
  | .ok handle =>
    let s := answer.2.note correlation (.submitted handle.statementId handle.state)
    if handle.state = .failed then
      (.error (.failure (.rejected handle.ending (client.shown statement))), s)
    else (.ok handle, s)

/-- Asks for the state of a statement. -/
def poll (client : Client τ) (connection : Connection) (deadline : Option τ)
    (statementId : String) (s : Session τ) : Except Stop Handle × Session τ :=
  let answer := client.request connection deadline .poll (.poll statementId) none s
  (answer.1 >>= readHandle (some statementId), answer.2)

/-- Cancels a statement and tells whether the warehouse agreed. Only a fault is passed on. -/
def cancel (client : Client τ) (connection : Connection) (correlation : Option String)
    (statementId : String) (s : Session τ) : Except Fault Bool × Session τ :=
  match s.ask connection client.httpTimeout (.cancel statementId) with
  | (.response response, s) =>
    if 400 ≤ response.status then
      (.ok false, s.note correlation (.cancelFailed statementId (.status response.status)))
    else (.ok true, s.note correlation (.cancelled statementId))
  | (.broken reason, s) =>
    (.ok false, s.note correlation (.cancelFailed statementId (.broken reason)))
  | (.timedOut, s) =>
    (.ok false, s.note correlation (.cancelFailed statementId (.broken "TimeoutError")))
  | (.fault fault, s) => (.error fault, s)

end Client

end Indicator.Warehouse
