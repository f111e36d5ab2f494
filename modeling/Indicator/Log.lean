import Indicator.Failure

/-!
# The log

The records that the engine writes, each with its level, the name of its event and a payload. An
engine may name the errors that it reports; `errorId` is that name.
-/

namespace Indicator

open Json (Document Members)
open Warehouse (State)

inductive Level
  | debug
  | info
  | warning
  | error
deriving DecidableEq, Repr

def Level.name : Level → String
  | debug => "DEBUG"
  | info => "INFO"
  | warning => "WARNING"
  | error => "ERROR"

/-- Why a statement was not cancelled. -/
inductive CancelRefusal
  | broken (reason : String)
  | status (status : Int)
deriving DecidableEq, Repr

/-- How a request for an answer ended. -/
inductive AuditStatus
  | ok
  | timeout
  | error
deriving DecidableEq, Repr

def AuditStatus.name : AuditStatus → String
  | ok => "ok"
  | timeout => "timeout"
  | error => "error"

/-- The record of one request for an answer. -/
structure Audit where
  operation : String
  subject : String
  status : AuditStatus
  durationMs : Int
  errorCode : Option String
deriving DecidableEq, Repr

/-- What is told of a statement that was answered. -/
structure Measured where
  sqlHash : String
  statementId : String
  elapsedMs : Int
  rowCount : Nat
deriving DecidableEq, Repr

inductive Event
  | submitted (statementId : String) (state : State)
  | polled (statementId : String) (state : State) (count : Nat)
  | cancelled (statementId : String)
  | cancelFailed (statementId : String) (refusal : CancelRefusal)
  | completed (statementId : String) (polls rows : Nat)
  | statementText (context sqlHash sql : String)
  | kpiAnswered (kpi groupBy scope dimension : String) (measured : Measured)
  | optionsAnswered (dimension table : String) (measured : Measured)
  | audited (audit : Audit)
  | failureHandled (errorId : String) (kind : Kind)
  | faultUnhandled (errorId : String)
deriving DecidableEq, Repr

/-- An event, with the name that the caller gave the request. -/
structure Record where
  correlation : Option String
  event : Event
deriving DecidableEq, Repr

namespace Event

def name : Event → String
  | submitted _ _ => "engine.statement.submit"
  | polled _ _ _ => "engine.statement.poll"
  | cancelled _ => "engine.statement.cancel"
  | cancelFailed _ _ => "engine.statement.cancel_failed"
  | completed _ _ _ => "engine.statement.complete"
  | statementText _ _ _ => "engine.statement.text"
  | kpiAnswered _ _ _ _ _ => "engine.query.execute"
  | optionsAnswered _ _ _ => "engine.options.execute"
  | audited _ => "engine.audit.execution"
  | failureHandled _ _ => "engine.handled_error"
  | faultUnhandled _ => "engine.unhandled_error"

def level : Event → Level
  | polled _ _ _ => .debug
  | cancelFailed _ _ | failureHandled _ _ => .warning
  | faultUnhandled _ => .error
  | submitted _ _ | cancelled _ | completed _ _ _ | statementText _ _ _ | kpiAnswered _ _ _ _ _
  | optionsAnswered _ _ _ | audited _ => .info

end Event

def Measured.members (m : Measured) : Members :=
  [("sql_hash", .str m.sqlHash), ("statement_id", .str m.statementId),
   ("execution_time_ms", .int m.elapsedMs), ("row_count", .int m.rowCount)]

def CancelRefusal.members : CancelRefusal → Members
  | broken reason => [("reason", .str reason)]
  | status code => [("http_status", .int code)]

namespace Record

/-- The members of a payload. -/
def payload (record : Record) : Members :=
  let correlation := ("correlation_id", Document.ofText? record.correlation)
  match record.event with
  | .submitted id state => [correlation, ("statement_id", .str id), ("state", .str state.name)]
  | .polled id state count =>
    [correlation, ("statement_id", .str id), ("state", .str state.name),
     ("poll_count", .int count)]
  | .cancelled id => [correlation, ("statement_id", .str id)]
  | .cancelFailed id refusal => [correlation, ("statement_id", .str id)] ++ refusal.members
  | .completed id polls rows =>
    [correlation, ("statement_id", .str id), ("poll_count", .int polls), ("row_count", .int rows)]
  | .statementText context hash sql =>
    [("context", .str context), correlation, ("sql_hash", .str hash), ("sql", .str sql)]
  | .kpiAnswered kpi groupBy scope dimension measured =>
    [correlation, ("kpi", .str kpi), ("group_by", .str groupBy), ("scope", .str scope),
     ("dimension", .str dimension)] ++ measured.members
  | .optionsAnswered dimension table measured =>
    [correlation, ("dimension", .str dimension), ("table", .str table)] ++ measured.members
  | .audited audit =>
    [("operation", .str audit.operation), ("subject", .str audit.subject),
     ("status", .str audit.status.name), ("duration_ms", .int audit.durationMs),
     ("error_code", .ofText? audit.errorCode), correlation]
  | .failureHandled errorId kind =>
    [("error_id", .str errorId), ("code", .str kind.code), ("status_code", .int kind.status)]
  | .faultUnhandled errorId => [("error_id", .str errorId)]

def toDocument (record : Record) : Document :=
  .object [("level", .str record.event.level.name), ("event", .str record.event.name),
    ("payload", .object record.payload)]

end Record

end Indicator
