import Indicator.Warehouse.Client

/-!
# Executions

The execution of a statement, one step at a time. The statement is submitted; while its state is
not final the client waits and asks again; once it has succeeded the chunks of the result are
fetched one after the other. At the deadline the statement is cancelled. `step` does the next
thing, `run` takes a given count of steps.
-/

namespace Indicator.Warehouse

open Json (Document Members)

/-- A statement to be executed, with the time between two polls and the time it may take. An
interval that cannot be used is a fault once the client has to wait. -/
structure Job (τ : Type) where
  statement : String
  interval : Except Fault τ
  deadline : τ
  correlation : Option String

/-- The result of a statement. -/
structure Result where
  statementId : String
  columns : List String
  rows : List Document
  polls : Nat

/-- A result as far as it has been fetched, with the link to the next chunk. -/
structure Progress where
  statementId : String
  columns : List String
  polls : Nat
  rows : List Document
  fetched : List String
  link : Document

/-- Where an execution stands. -/
inductive Stage
  | submitting
  | waiting (handle : Handle) (polls : Nat)
  | asking (handle : Handle) (polls : Nat)
  | expiring (handle : Handle)
  | reading (result : Progress)
  | finished (outcome : Except Stop Result)

namespace Stage

def fail (failure : Failure) : Stage := .finished (.error (.failure failure))

def breach (what : Breach) : Stage := fail (.breach what)

/-- The first rows of a result, those that came with the state. A result without rows is complete
if it says that it has none. -/
def ofResult (handle : Handle) (polls : Nat) (result : Members) : Stage :=
  let read (rows : List Document) (link : Document) : Stage :=
    .reading ⟨handle.statementId, columnNames (handle.manifest.getD []), polls, rows, [], link⟩
  match Document.member result "data_array" with
  | .null =>
    if (Document.member result "row_count").isZero then read [] .null
    else breach (.missingRows handle.statementId)
  | .list rows => read rows (Document.member result "next_chunk_internal_link")
  | _ => breach (.rowsNotList handle.statementId)

/-- What follows the news that a statement is in a final state. -/
def ofFinal (handle : Handle) (polls : Nat) : Stage :=
  match handle.state, handle.result with
  | .succeeded, some result => ofResult handle polls result
  | .succeeded, none => breach (.missingResult handle.statementId)
  | _, _ => fail (.ended handle.ending)

/-- What follows the news of a state. -/
def ofHandle (handle : Handle) (polls : Nat) : Stage :=
  if handle.state.isTerminal then ofFinal handle polls else .waiting handle polls

/-- The rows of a chunk and the link to the next one. -/
def chunk? : Document → Option (List Document × Document)
  | .object chunk =>
    match Document.member chunk "data_array" with
    | .list rows => some (rows, Document.member chunk "next_chunk_internal_link")
    | _ => none
  | _ => none

/-- A result with one more chunk. -/
def afterChunk (result : Progress) (link : String) (answer : Document) : Stage :=
  match chunk? answer with
  | none => breach (.chunkWithoutRows result.statementId)
  | some (rows, next) =>
    .reading { result with
      rows := result.rows ++ rows
      fetched := result.fetched ++ [link]
      link := next }

end Stage

namespace Progress

/-- The link to fetch: a text that was not fetched before. -/
def newLink? (result : Progress) : Option String :=
  match result.link with
  | .str link => if result.fetched.contains link then none else some link
  | _ => none

def complete (result : Progress) : Result :=
  ⟨result.statementId, result.columns, result.rows, result.polls⟩

end Progress

/-- What stays the same throughout an execution. -/
structure Execution (τ : Type) where
  client : Client τ
  connection : Connection
  job : Job τ
  /-- The instant of the deadline. -/
  deadlineAt : τ

namespace Execution

variable {τ : Type} [Zero τ] [Add τ] [Sub τ] [LT τ] [LE τ] [DecidableLT τ] [DecidableLE τ]
  [Timeline τ]

/-- The next thing that is done. -/
def step (e : Execution τ) : Stage × Session τ → Stage × Session τ
  | (.submitting, s) =>
    match e.client.submit e.connection (some e.deadlineAt) e.job.correlation e.job.statement s with
    | (.ok handle, s) => (.ofHandle handle 0, s)
    | (.error stop, s) => (.finished (.error stop), s)
  | (.waiting handle polls, s) =>
    let remaining := e.deadlineAt - s.now
    if 0 < remaining then
      match e.job.interval with
      | .ok interval => (.asking handle polls, s.pause (sooner interval remaining))
      | .error fault => (.finished (.error (.fault fault)), s)
    else (.asking handle polls, s)
  | (.asking handle polls, s) =>
    if e.deadlineAt ≤ s.now then (.expiring handle, s)
    else match e.client.poll e.connection (some e.deadlineAt) handle.statementId s with
      | (.ok next, s) =>
        (.ofHandle next (polls + 1),
          s.note e.job.correlation (.polled next.statementId next.state (polls + 1)))
      | (.error (.failure (.pastDeadline _)), s) => (.expiring handle, s)
      | (.error stop, s) => (.finished (.error stop), s)
  | (.expiring handle, s) =>
    match e.client.cancel e.connection e.job.correlation handle.statementId s with
    | (.ok _, s) =>
      (.fail (.expired (Timeline.brief e.job.deadline) handle.statementId handle.state), s)
    | (.error fault, s) => (.finished (.error (.fault fault)), s)
  | (.reading result, s) =>
    if result.link.truthy then
      match result.newLink? with
      | none => (.breach (.badLink result.statementId result.fetched.length), s)
      | some link =>
        match e.client.request e.connection (some e.deadlineAt) .fetchChunk (.fetchChunk link) none
            s with
        | (.ok answer, s) => (.afterChunk result link answer, s)
        | (.error stop, s) => (.finished (.error stop), s)
    else
      (.finished (.ok result.complete), s.note e.job.correlation
        (.completed result.statementId result.polls result.rows.length))
  | (.finished outcome, s) => (.finished outcome, s)

/-- Takes steps until the execution is over, at most as many as are granted. -/
def run (e : Execution τ) : Nat → Stage × Session τ → Stage × Session τ
  | 0, state => state
  | steps + 1, state =>
    match state.1 with
    | .finished _ => state
    | _ => e.run steps (e.step state)

end Execution

/-- The outcome at a stage. -/
def Stage.outcome : Stage → Except Stop Result
  | finished outcome => outcome
  | _ => .error .unfinished

namespace Client

variable {τ : Type} [Zero τ] [Add τ] [Sub τ] [LT τ] [LE τ] [DecidableLT τ] [DecidableLE τ]
  [Timeline τ]

/-- Executes a statement in at most `patience` steps. -/
def execute (client : Client τ) (patience : Nat) (job : Job τ) (s : Session τ) :
    Except Stop Result × Session τ :=
  match client.checkConfigured with
  | .error failure => (.error (.failure failure), s)
  | .ok () =>
    match client.connect with
    | .error fault => (.error (.fault fault), s)
    | .ok connection =>
      let e : Execution τ := ⟨client, connection, job, s.now + job.deadline⟩
      let (stage, s) := e.run patience (.submitting, s)
      (stage.outcome, s)

end Client

end Indicator.Warehouse
