import Indicator.Report
import Indicator.Settings.Basic
import Indicator.Warehouse.Execution

/-!
# The engine

From a request to its answer: the request is compiled, the statement is executed in the warehouse,
and the rows of the result, no more of them than the statement asks for, are read as a report.
-/

namespace Indicator

open Warehouse (Client Job Session Stop Result)

/-- The most characters of a statement that are logged. -/
def maxLoggedText : Nat := 4000

/-- A text that is cut, and marked as such, where it is too long for the log. -/
def truncateText (text : String) : String :=
  if maxLoggedText < text.length then
    String.ofList (text.toList.take maxLoggedText) ++ "...(truncated)"
  else text

/-- The steps that an execution is granted where nothing else is said. -/
def defaultPatience : Nat := 1000000

/-- On what terms statements of one kind are executed: how many rows they ask for, the time between
two polls and the time that a statement may take. A term that is no number is a fault once it is
used. -/
structure Terms (τ : Type) where
  rowLimit : Except Fault Int
  interval : Except Fault τ
  deadline : Except Fault τ

/-- What executes statements: on what terms, their text, and for which correlation. -/
abbrev Executor (τ : Type) :=
  Terms τ → String → Option String → Session τ → Except Stop Result × Session τ

/-- An engine. A time limit of its client that is no number is a fault of every statement. -/
structure Engine (τ : Type) where
  space : Namespace
  excludes : Bool
  exclusion : Exclusion
  kpiTerms : Terms τ
  optionsTerms : Terms τ
  logsStatements : Bool
  client : Client τ
  limitFault : Option Fault
  /-- The steps that one execution is granted. -/
  patience : Nat

section

variable {τ : Type}

/-- The client that settings describe. Outside of production, errors show the statement. -/
def Settings.client (s : Settings τ) : Client τ where
  host := s.host
  token := s.token
  warehouseId := .str s.warehouseId
  waitTimeout := .str s.waitTimeout
  showsStatement := !s.isProduction
  httpTimeout := s.httpTimeout

/-- The engine that settings describe. -/
def Engine.ofSettings (s : Settings τ) : Engine τ where
  space := s.space
  excludes := s.excludesCategory
  exclusion := ⟨s.excludedColumn, s.excludedValue⟩
  kpiTerms := ⟨.ok s.kpiRowLimit, .ok s.kpiInterval, .ok s.kpiDeadline⟩
  optionsTerms := ⟨.ok s.optionsRowLimit, .ok s.optionsInterval, .ok s.optionsDeadline⟩
  logsStatements := s.logsStatements
  client := s.client
  limitFault := none
  patience := defaultPatience

/-- A statement under a row limit, which is looked at last. -/
def compileUnder (rowLimit : Except Fault Int) (statement : Int → Except Failure Sql.Statement) :
    Except Stop Sql.Statement :=
  match rowLimit with
  | .ok limit => (statement limit).mapError .failure
  | .error fault =>
    match statement 1 with
    | .error failure => .error (.failure failure)
    | .ok _ => .error (.fault fault)

namespace Engine

/-- The category that is left out of the answers, if one is. -/
def excluded (engine : Engine τ) : Option Exclusion :=
  if engine.excludes then some engine.exclusion else none

/-- The statement of a request for an indicator. -/
def kpiStatement (engine : Engine τ) (request : KpiRequest) : Except Stop Sql.Statement :=
  compileUnder engine.kpiTerms.rowLimit fun limit =>
    request.statement engine.space limit engine.excluded

/-- The statement of a request for options. -/
def optionsStatement (engine : Engine τ) (request : OptionsRequest) : Except Stop Sql.Statement :=
  compileUnder engine.optionsTerms.rowLimit fun limit => request.statement engine.space limit

end Engine

end

namespace Engine

variable {τ : Type} [Zero τ] [Add τ] [Sub τ] [LT τ] [LE τ] [DecidableLT τ] [DecidableLE τ]
  [Timeline τ]

/-- Logs the text of a statement, if statements are to be logged. -/
def noteStatement (engine : Engine τ) (context sql hash : String) (correlation : Option String)
    (s : Session τ) : Session τ :=
  if engine.logsStatements then
    s.note correlation (.statementText context hash (truncateText (Text.joinWords sql)))
  else s

/-- Executes a statement, once all that it needs can be used. -/
def execute (engine : Engine τ) (terms : Terms τ) (sql : String) (correlation : Option String)
    (s : Session τ) : Except Stop Result × Session τ :=
  match engine.client.checkConfigured, terms.deadline, engine.client.connect, engine.limitFault with
  | .error failure, _, _, _ => (.error (.failure failure), s)
  | .ok (), .error fault, _, _ => (.error (.fault fault), s)
  | .ok (), .ok _, .error fault, _ => (.error (.fault fault), s)
  | .ok (), .ok _, .ok _, some fault => (.error (.fault fault), s)
  | .ok (), .ok deadline, .ok _, none =>
    engine.client.execute engine.patience ⟨sql, terms.interval, deadline, correlation⟩ s

/-- What comes of a statement: its fingerprint, its result, the rows that were read and the time
that it took, in milliseconds. -/
structure Findings (α : Type) where
  hash : String
  statementId : String
  rows : List α
  elapsedMs : Int

/-- The findings as they are logged. -/
def Findings.measured {α : Type} (findings : Findings α) : Measured :=
  ⟨findings.hash, findings.statementId, findings.elapsedMs, findings.rows.length⟩

/-- Has a statement executed and reads at most as many rows as it asks for. -/
def report {α : Type} (engine : Engine τ) (executor : Executor τ) (context : String)
    (terms : Terms τ) (statement : Sql.Statement)
    (read : List Json.Document → Except Failure (List α)) (correlation : Option String)
    (s : Session τ) : Except Stop (Findings α) × Session τ :=
  let sql := statement.text
  match Sql.fingerprint sql with
  | .error what => (.error (.fault (.unencodable what)), s)
  | .ok hash =>
    match executor terms sql correlation (engine.noteStatement context sql hash correlation s) with
    | (.error stop, ended) => (.error stop, ended)
    | (.ok result, ended) =>
      match capped statement.rowLimit read result.rows, millisBetween s.now ended.now with
      | .error failure, _ => (.error (.failure failure), ended)
      | .ok _, .error what => (.error (.fault (.badAmount what)), ended)
      | .ok rows, .ok elapsed => (.ok ⟨hash, result.statementId, rows, elapsed⟩, ended)

/-- Answers a request for an indicator, its statement being executed by an executor. -/
def answerKpiBy (engine : Engine τ) (executor : Executor τ) (request : KpiRequest)
    (correlation : Option String) (s : Session τ) : Except Stop KpiAnswer × Session τ :=
  match engine.kpiStatement request with
  | .error stop => (.error stop, s)
  | .ok statement =>
    match engine.report executor "kpi" engine.kpiTerms statement kpiRows correlation s with
    | (.error stop, s) => (.error stop, s)
    | (.ok found, s) =>
      (.ok ⟨request.kpi, request.groupBy, request.scope, found.rows, found.statementId, found.hash,
          found.elapsedMs⟩,
        s.note correlation (.kpiAnswered request.kpi request.groupBy.name request.scope.name
          statement.dimensionLabel found.measured))

/-- Answers a request for an indicator. -/
def answerKpi (engine : Engine τ) (request : KpiRequest) (correlation : Option String)
    (s : Session τ) : Except Stop KpiAnswer × Session τ :=
  engine.answerKpiBy engine.execute request correlation s

/-- Answers a request for options, its statement being executed by an executor. -/
def answerOptionsBy (engine : Engine τ) (executor : Executor τ) (request : OptionsRequest)
    (correlation : Option String) (s : Session τ) : Except Stop OptionsAnswer × Session τ :=
  match engine.optionsStatement request with
  | .error stop => (.error stop, s)
  | .ok statement =>
    match engine.report executor "options" engine.optionsTerms statement optionRows correlation s with
    | (.error stop, s) => (.error stop, s)
    | (.ok found, s) =>
      (.ok ⟨request.dimension, request.table, found.rows, found.statementId, found.hash,
          found.elapsedMs⟩,
        s.note correlation (.optionsAnswered request.dimension request.table found.measured))

/-- Answers a request for options. -/
def answerOptions (engine : Engine τ) (request : OptionsRequest) (correlation : Option String)
    (s : Session τ) : Except Stop OptionsAnswer × Session τ :=
  engine.answerOptionsBy engine.execute request correlation s

end Engine

end Indicator
