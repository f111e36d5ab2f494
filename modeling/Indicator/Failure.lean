import Indicator.Catalog
import Indicator.Validation
import Indicator.Warehouse.State

/-!
# Failures

Every way in which a request can fail that the engine knows of, by its cause. A cause has a kind,
which callers see as a code and an HTTP status, a message and details.
-/

namespace Indicator

open Json (Document Members)
open Warehouse (Phase State)

/-- The kinds of failure. -/
inductive Kind
  | invalidRequest
  | configuration
  | remoteRejected
  | remoteUnavailable
  | executionFailed
  | timeout
  | integrityViolation
  | internal
  | requestTimeout
deriving DecidableEq, Repr

def Kind.code : Kind → String
  | invalidRequest => "invalid_request"
  | configuration => "configuration_error"
  | remoteRejected => "remote_rejected"
  | remoteUnavailable => "remote_unavailable"
  | executionFailed => "query_execution_failed"
  | timeout => "timeout"
  | integrityViolation => "integrity_violation"
  | internal => "internal_error"
  | requestTimeout => "request_timeout"

def Kind.status : Kind → Nat
  | invalidRequest => 400
  | configuration | internal => 500
  | remoteRejected | executionFailed | integrityViolation => 502
  | remoteUnavailable => 503
  | timeout | requestTimeout => 504

/-- How a statement ended that did not succeed, as the warehouse tells it. -/
structure Ending where
  statementId : String
  state : State
  errorMessage : Option String
  errorCode : Option String
deriving DecidableEq, Repr

/-- The reason that the warehouse gave. -/
def Ending.reason (ending : Ending) : String :=
  match ending.errorMessage with
  | none | some "" => "no message"
  | some message => message

/-- The ways in which an answer breaks the rules of the warehouse. -/
inductive Breach
  | notJson (phase : Phase)
  | handleNotObject
  | missingId
  | fieldNotObject (field statementId : String)
  | unknownState (state statementId : String)
  | missingResult (statementId : String)
  | missingRows (statementId : String)
  | rowsNotList (statementId : String)
  | badLink (statementId : String) (chunksFetched : Nat)
  | chunkWithoutRows (statementId : String)
  | narrowRow (index width : Nat)
deriving DecidableEq, Repr

/-- The causes of failure. -/
inductive Failure
  | unknownKpi (name : String)
  | unlistedSource (dimension table : String)
  | unsupportedGrouping (name : String)
  | malformedRequest (faults : List FieldFault)
  | notConfigured (hasHost hasToken hasWarehouse : Bool)
  | timedOut (phase : Phase) (limit : String)
  | pastDeadline (phase : Phase)
  | expired (limit statementId : String) (last : State)
  | unreachable (phase : Phase) (reason : String)
  | refused (phase : Phase) (status : Int) (message : String) (statement : Option String)
  | rejected (ending : Ending) (statement : Option String)
  | ended (ending : Ending)
  | breach (what : Breach)
  | internal (message : String)
  | requestTimeout
deriving DecidableEq, Repr

namespace Failure

def kind : Failure → Kind
  | unknownKpi _ | unlistedSource _ _ | unsupportedGrouping _ | malformedRequest _ => .invalidRequest
  | notConfigured _ _ _ => .configuration
  | timedOut _ _ | unreachable _ _ => .remoteUnavailable
  | pastDeadline _ | expired _ _ _ => .timeout
  | refused _ status _ _ =>
    if 500 ≤ status ∨ status = 429 then .remoteUnavailable else .remoteRejected
  | rejected _ _ => .remoteRejected
  | ended _ => .executionFailed
  | breach _ => .integrityViolation
  | internal _ => .internal
  | requestTimeout => .requestTimeout

end Failure

def Breach.message : Breach → String
  | notJson phase => "Databricks " ++ phase.name ++ " returned a non-JSON body"
  | handleNotObject => "Warehouse returned a non-object statement payload"
  | missingId => "Warehouse did not return statement_id"
  | fieldNotObject field _ => "Warehouse returned a non-object '" ++ field ++ "'"
  | unknownState state _ => "Warehouse reported unknown statement state '" ++ state ++ "'"
  | missingResult _ => "Statement SUCCEEDED without a result payload"
  | missingRows _ => "Statement SUCCEEDED without result rows"
  | rowsNotList _ => "Result rows are not an array"
  | badLink _ _ => "Result chunk link is invalid or repeats an earlier chunk"
  | chunkWithoutRows _ => "Result chunk arrived without rows"
  | narrowRow _ _ => "Warehouse returned a row narrower than the compiled projection"

def Breach.details : Breach → Members
  | notJson phase => [("phase", .str phase.name)]
  | handleNotObject | missingId => []
  | fieldNotObject field id => [("statement_id", .str id), ("field", .str field)]
  | unknownState _ id | missingResult id | missingRows id | rowsNotList id | chunkWithoutRows id =>
    [("statement_id", .str id)]
  | badLink id fetched => [("statement_id", .str id), ("chunks_fetched", .int fetched)]
  | narrowRow index width => [("row_index", .int index), ("expected_columns", .int width)]

def Ending.details (ending : Ending) : Members :=
  [("statement_id", .str ending.statementId), ("state", .str ending.state.name),
   ("remote_error_code", .ofText? ending.errorCode)]

/-- The statement as a detail, where it may be shown. -/
def statementDetail : Option String → Members
  | none => []
  | some statement => [("statement", .str statement)]

namespace Failure

def message : Failure → String
  | unknownKpi name => "Unknown kpi '" ++ name ++ "'"
  | unlistedSource dimension table =>
    "Invalid dimension '" ++ dimension ++ "' or table '" ++ table ++ "'"
  | unsupportedGrouping name => "Unsupported grouping '" ++ name ++ "'"
  | malformedRequest _ => "Malformed request"
  | notConfigured _ _ _ => "Missing Databricks configuration"
  | timedOut phase limit =>
    "Databricks " ++ phase.name ++ " request timed out after " ++ limit ++ "s"
  | pastDeadline phase => "Databricks " ++ phase.name ++ " request ran past the statement deadline"
  | expired limit _ _ => "Statement did not finish within " ++ limit ++ "s"
  | unreachable phase reason => "Databricks " ++ phase.name ++ " request failed: " ++ reason
  | refused phase status message _ =>
    "Databricks " ++ phase.name ++ " failed with HTTP " ++ toString status ++ ": " ++ message
  | rejected ending _ => "Warehouse rejected the statement: " ++ ending.reason
  | ended ending => "Statement ended in state " ++ ending.state.name ++ ": " ++ ending.reason
  | breach what => what.message
  | internal message => message
  | requestTimeout => "Request timed out"

def details : Failure → Members
  | unknownKpi _ => [("supported", .list (kpiNames.map .str))]
  | malformedRequest faults => [("errors", .list (faults.map FieldFault.toDocument))]
  | notConfigured hasHost hasToken hasWarehouse =>
    [("has_host", .bool hasHost), ("has_token", .bool hasToken),
     ("has_warehouse_id", .bool hasWarehouse)]
  | timedOut phase _ | pastDeadline phase | unreachable phase _ => [("phase", .str phase.name)]
  | expired _ id last => [("statement_id", .str id), ("last_state", .str last.name)]
  | refused phase status _ statement =>
    [("phase", .str phase.name), ("http_status", .int status)] ++ statementDetail statement
  | rejected ending statement => ending.details ++ statementDetail statement
  | ended ending => ending.details
  | breach what => what.details
  | unlistedSource _ _ | unsupportedGrouping _ | internal _ | requestTimeout => []

end Failure

end Indicator
