import Indicator.Engine
import Indicator.Proofs.Outcome

/-!
# What the engine carries out

A request that can be compiled is one execution in the warehouse: what comes before it and after it
makes no request and takes no time.

* `Engine.Carried`: an outcome that one execution of a statement has led to.
* `Engine.Answered`: **how a request for an answer is carried out**: it is refused, its statement
  cannot be written, or the statement is executed. `Engine.answerKpi_answered`,
  `Engine.answerOptions_answered`: so are the two kinds of requests.
-/

namespace Indicator

open Warehouse (Session Stop Result)
open Json (Document)

/-! ### Refusals -/

theorem compileUnder_eq_error {rowLimit : Except Fault Int}
    {statement : Int → Except Failure Sql.Statement} {stop : Stop}
    (h : compileUnder rowLimit statement = .error stop) :
    (∃ limit failure, statement limit = .error failure ∧ stop = .failure failure) ∨
      ∃ fault, stop = .fault fault := by
  unfold compileUnder at h
  split at h
  · rename_i limit
    cases hstatement : statement limit with
    | error failure =>
      rw [hstatement] at h
      cases h
      exact .inl ⟨limit, failure, hstatement, rfl⟩
    | ok compiled =>
      rw [hstatement] at h
      cases h
  · rename_i fault
    split at h
    · rename_i failure hstatement
      cases h
      exact .inl ⟨1, failure, hstatement, rfl⟩
    · cases h
      exact .inr ⟨fault, rfl⟩

theorem KpiRequest.statement_eq_error {request : KpiRequest} {space : Namespace} {rowLimit : Int}
    {exclusion : Option Exclusion} {failure : Failure}
    (h : request.statement space rowLimit exclusion = .error failure) :
    failure = .unknownKpi request.kpi := by
  unfold statement resolveKpi at h
  split at h
  · cases h
  · cases h
    rfl

theorem OptionsRequest.statement_eq_error {request : OptionsRequest} {space : Namespace}
    {rowLimit : Int} {failure : Failure} (h : request.statement space rowLimit = .error failure) :
    failure = .unlistedSource request.dimension request.table := by
  unfold statement resolveSource at h
  split at h
  · cases h
  · cases h
    rfl

namespace Engine

variable {τ : Type} [Zero τ] [Add τ] [Sub τ] [LT τ] [LE τ] [DecidableLT τ] [DecidableLE τ]
  [Timeline τ]

section

omit [Zero τ] [Add τ] [Sub τ] [LT τ] [LE τ] [DecidableLT τ] [DecidableLE τ] [Timeline τ]

variable (engine : Engine τ) (context sql hash : String) (correlation : Option String)
  (s : Session τ)

@[simp] theorem noteStatement_now :
    (engine.noteStatement context sql hash correlation s).now = s.now := by
  unfold noteStatement
  split <;> rfl

@[simp] theorem noteStatement_exchanges :
    (engine.noteStatement context sql hash correlation s).exchanges = s.exchanges := by
  unfold noteStatement
  split <;> rfl

end

/-- An engine whose terms can be used executes a statement as its client does. -/
theorem execute_eq_client (engine : Engine τ) {terms : Terms τ} {deadline : τ}
    (hlimit : engine.limitFault = none) (hterms : terms.deadline = .ok deadline) (sql : String)
    (correlation : Option String) (s : Session τ) :
    engine.execute terms sql correlation s =
      engine.client.execute engine.patience ⟨sql, terms.interval, deadline, correlation⟩ s := by
  unfold execute Warehouse.Client.execute
  rw [hlimit, hterms]
  cases engine.client.checkConfigured with
  | error failure => rfl
  | ok =>
    cases engine.client.connect with
    | error fault => rfl
    | ok connection => rfl

/-- **What an execution has led to**, where nothing else makes a request or takes time. -/
structure Carried {α : Type} (executed : Except Stop Result × Session τ) (hashOf : α → String)
    (hash : String) (done : Except Stop α × Session τ) : Prop where
  now : done.2.now = executed.2.now
  exchanges : done.2.exchanges = executed.2.exchanges
  hash : ∀ answer, done.1 = .ok answer → hashOf answer = hash
  kept : ∀ stop, executed.1 = .error stop → done.1 = .error stop
  /-- A result that is no report is a breach of the rules of the warehouse. -/
  stopped : ∀ stop, done.1 = .error stop → executed.1 = .error stop ∨
    (∃ what, stop = .failure (.breach what)) ∨ ∃ fault, stop = .fault fault

/-- **How a request for an answer is carried out**: it is refused, its statement cannot be written, or
the statement is executed. -/
inductive Answered {α : Type} (engine : Engine τ) (terms : Terms τ) (correlation : Option String)
    (hashOf : α → String) (s : Session τ) (compiled : Except Stop Sql.Statement)
    (done : Except Stop α × Session τ) : Prop
  | refused {stop : Stop} (refusal : compiled = .error stop) (nothing : done = (.error stop, s))
  | unwritten {statement : Sql.Statement} {what : Text.Unencodable}
      (written : compiled = .ok statement) (unhashed : Sql.fingerprint statement.text = .error what)
      (nothing : done = (.error (.fault (.unencodable what)), s))
  | carried {statement : Sql.Statement} {hash : String} {begun : Session τ}
      (written : compiled = .ok statement) (hashed : Sql.fingerprint statement.text = .ok hash)
      (now : begun.now = s.now) (exchanges : begun.exchanges = s.exchanges)
      (carried : Carried (engine.execute terms statement.text correlation begun) hashOf hash done)

theorem readRows_eq_error {α : Type} {width : Nat} {ofDocument? : Document → Option α}
    {index : Nat} {rows : List Document} {failure : Failure}
    (h : readRows width ofDocument? index rows = .error failure) :
    ∃ what, failure = .breach what := by
  induction rows generalizing index with
  | nil => cases h
  | cons row rest ih =>
    rw [readRows] at h
    split at h
    · cases h
      exact ⟨_, rfl⟩
    · cases hrest : readRows width ofDocument? (index + 1) rest with
      | ok found =>
        rw [hrest] at h
        cases h
      | error what =>
        rw [hrest] at h
        cases h
        exact ih hrest

section

variable (engine : Engine τ) {α β : Type} (context : String) (terms : Terms τ)
  (read : List Document → Except Failure (List α)) (correlation : Option String) (s : Session τ)

/-- A report is the outcome of one execution. -/
theorem report_carried {statement : Sql.Statement} {hash : String}
    (hhash : Sql.fingerprint statement.text = .ok hash)
    (hread : ∀ rows failure, read rows = .error failure → ∃ what, failure = .breach what) :
    Carried (engine.execute terms statement.text correlation
        (engine.noteStatement context statement.text hash correlation s))
      (Findings.hash (α := α)) hash
      (engine.report engine.execute context terms statement read correlation s) := by
  unfold report
  dsimp only
  rw [hhash]
  dsimp only
  cases engine.execute terms statement.text correlation
      (engine.noteStatement context statement.text hash correlation s) with
  | mk outcome ended =>
    cases outcome with
    | error stop =>
      refine ⟨rfl, rfl, by simp, fun other hother => ?_, fun other hother => .inl ?_⟩
      · cases hother
        rfl
      · cases hother
        rfl
    | ok result =>
      dsimp only
      split
      · rename_i failure _ hrows
        obtain ⟨what, rfl⟩ := hread _ _ hrows
        refine ⟨rfl, rfl, by simp, by simp, fun stop hstop => .inr (.inl ⟨what, ?_⟩)⟩
        cases hstop
        rfl
      · rename_i what _ _
        refine ⟨rfl, rfl, by simp, by simp, fun stop hstop => .inr (.inr ⟨.badAmount what, ?_⟩)⟩
        cases hstop
        rfl
      · refine ⟨rfl, rfl, fun answer hanswer => ?_, by simp, by simp⟩
        cases hanswer
        rfl

omit [Zero τ] [Add τ] [LT τ] [LE τ] [DecidableLT τ] [DecidableLE τ] in
/-- A statement that cannot be written is not executed. -/
theorem report_unwritten (executor : Executor τ) {statement : Sql.Statement} {what : Text.Unencodable}
    (hhash : Sql.fingerprint statement.text = .error what) :
    engine.report executor context terms statement read correlation s =
      (.error (.fault (.unencodable what)), s) := by
  unfold report
  dsimp only
  rw [hhash]

/-- A statement, once it is compiled, with what is made of its findings and noted of them. -/
def conduct (executor : Executor τ) (statement : Except Stop Sql.Statement) (wrap : Findings α → β)
    (event : Sql.Statement → Findings α → Event) : Except Stop β × Session τ :=
  match statement with
  | .error stop => (.error stop, s)
  | .ok statement =>
    match engine.report executor context terms statement read correlation s with
    | (.error stop, s) => (.error stop, s)
    | (.ok found, s) => (.ok (wrap found), s.note correlation (event statement found))

theorem conduct_answered (compiled : Except Stop Sql.Statement) {wrap : Findings α → β}
    (event : Sql.Statement → Findings α → Event) {hashOf : β → String}
    (hread : ∀ rows failure, read rows = .error failure → ∃ what, failure = .breach what)
    (hwrap : ∀ found, hashOf (wrap found) = found.hash) :
    engine.Answered terms correlation hashOf s compiled
      (engine.conduct context terms read correlation s engine.execute compiled wrap event) := by
  cases compiled with
  | error stop => exact .refused rfl rfl
  | ok statement =>
    cases hhash : Sql.fingerprint statement.text with
    | error what =>
      refine .unwritten rfl hhash ?_
      unfold conduct
      dsimp only
      rw [report_unwritten engine context terms read correlation s engine.execute hhash]
    | ok hash =>
      refine .carried rfl hhash (engine.noteStatement_now context statement.text hash correlation s)
        (engine.noteStatement_exchanges context statement.text hash correlation s) ?_
      have hreport := report_carried engine context terms read correlation s hhash hread
      unfold conduct
      dsimp only
      generalize engine.report engine.execute context terms statement read correlation s = ran
        at hreport
      obtain ⟨stopped | found, ended⟩ := ran
      · exact ⟨hreport.now, hreport.exchanges, by simp,
          fun stop hstop => by simpa using hreport.kept stop hstop,
          fun stop hstop => hreport.stopped stop (by simpa using hstop)⟩
      · refine ⟨hreport.now, hreport.exchanges, fun answer hanswer => ?_,
          fun stop hstop => by simpa using hreport.kept stop hstop, by simp⟩
        cases hanswer
        rw [hwrap]
        exact hreport.hash found rfl

end

omit [Zero τ] [Add τ] [LT τ] [LE τ] [DecidableLT τ] [DecidableLE τ] in
theorem answerKpiBy_eq_conduct (engine : Engine τ) (executor : Executor τ) (request : KpiRequest)
    (correlation : Option String) (s : Session τ) :
    engine.answerKpiBy executor request correlation s =
      engine.conduct "kpi" engine.kpiTerms kpiRows correlation s executor
        (engine.kpiStatement request)
        (fun found => ⟨request.kpi, request.groupBy, request.scope, found.rows, found.statementId,
          found.hash, found.elapsedMs⟩)
        (fun statement found => .kpiAnswered request.kpi request.groupBy.name request.scope.name
          statement.dimensionLabel found.measured) := by
  unfold answerKpiBy conduct
  cases engine.kpiStatement request with
  | error stop => rfl
  | ok statement =>
    dsimp only
    generalize engine.report executor "kpi" engine.kpiTerms statement kpiRows correlation s = ran
    obtain ⟨stopped | found, ended⟩ := ran <;> rfl

omit [Zero τ] [Add τ] [LT τ] [LE τ] [DecidableLT τ] [DecidableLE τ] in
theorem answerOptionsBy_eq_conduct (engine : Engine τ) (executor : Executor τ)
    (request : OptionsRequest) (correlation : Option String) (s : Session τ) :
    engine.answerOptionsBy executor request correlation s =
      engine.conduct "options" engine.optionsTerms optionRows correlation s executor
        (engine.optionsStatement request)
        (fun found => ⟨request.dimension, request.table, found.rows, found.statementId, found.hash,
          found.elapsedMs⟩)
        (fun _ found => .optionsAnswered request.dimension request.table found.measured) := by
  unfold answerOptionsBy conduct
  cases engine.optionsStatement request with
  | error stop => rfl
  | ok statement =>
    dsimp only
    generalize engine.report executor "options" engine.optionsTerms statement optionRows correlation
      s = ran
    obtain ⟨stopped | found, ended⟩ := ran <;> rfl

theorem answerKpi_answered (engine : Engine τ) (request : KpiRequest) (correlation : Option String)
    (s : Session τ) :
    engine.Answered engine.kpiTerms correlation KpiAnswer.sqlHash s (engine.kpiStatement request)
      (engine.answerKpi request correlation s) := by
  rw [answerKpi, answerKpiBy_eq_conduct]
  exact engine.conduct_answered "kpi" engine.kpiTerms kpiRows correlation s _ _
    (fun _ _ => readRows_eq_error) fun _ => rfl

theorem answerOptions_answered (engine : Engine τ) (request : OptionsRequest)
    (correlation : Option String) (s : Session τ) :
    engine.Answered engine.optionsTerms correlation OptionsAnswer.sqlHash s
      (engine.optionsStatement request) (engine.answerOptions request correlation s) := by
  rw [answerOptions, answerOptionsBy_eq_conduct]
  exact engine.conduct_answered "options" engine.optionsTerms optionRows correlation s _ _
    (fun _ _ => readRows_eq_error) fun _ => rfl

end Engine

end Indicator
