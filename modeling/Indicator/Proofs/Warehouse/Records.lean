import Indicator.Proofs.Engine
import Indicator.Proofs.Warehouse.Course

/-!
# What an execution records

The engine logs what it does, but leaves the audit records to those who ask it.

* `Session.audits`: the audit records of a session.
* `Execution.react_unaudited`, `Execution.rest_audits`: no step of an execution leaves one.
* `Course.audits_eq`: no execution does, however many steps it takes.
* `Engine.answerKpi_audits`, `Engine.answerOptions_audits`: **the engine leaves no audit record.**
-/

namespace Indicator

/-- The audit record that an event is, if it is one. -/
def Event.audit? : Event → Option Audit
  | .audited audit => some audit
  | _ => none

namespace Warehouse

variable {τ : Type}

namespace Session

/-- The audit records of a session, in order. -/
def audits (s : Session τ) : List Audit := s.log.filterMap fun record => record.event.audit?

theorem audits_note (s : Session τ) (correlation : Option String) (event : Event) :
    (s.note correlation event).audits = s.audits ++ event.audit?.toList := by
  rw [audits, note, List.filterMap_append, audits]
  cases haudit : event.audit? <;> simp [haudit]

theorem audits_noteAll (s : Session τ) (correlation : Option String) {events : List Event}
    (h : ∀ event ∈ events, event.audit? = none) :
    (s.noteAll correlation events).audits = s.audits := by
  have hnone : (events.map (Record.mk correlation ·)).filterMap (fun record =>
      record.event.audit?) = [] := by
    rw [List.filterMap_map, List.filterMap_eq_nil_iff]
    exact h
  rw [audits, noteAll, List.filterMap_append, hnone, List.append_nil, audits]

theorem audits_pause [Zero τ] [Add τ] [LT τ] [DecidableLT τ] (s : Session τ) (duration : τ) :
    (s.pause duration).audits = s.audits := by
  unfold pause
  split <;> rfl

end Session

theorem cancelEvents_unaudited (statementId : String) (answer : Answer) :
    ∀ event ∈ cancelEvents statementId answer, event.audit? = none := by
  cases answer with
  | response response =>
    unfold cancelEvents
    dsimp only
    split <;> simp [Event.audit?]
  | broken reason => simp [cancelEvents, Event.audit?]
  | timedOut => simp [cancelEvents, Event.audit?]
  | fault fault => simp [cancelEvents]

namespace Execution

variable [Zero τ] [Sub τ] [LT τ] [DecidableLT τ]

/-- What is recorded of a request to the warehouse is no audit record. -/
theorem react_unaudited [Timeline τ] (e : Execution τ) (x : Exchange τ) (stage : Stage) :
    ∀ event ∈ (e.react x stage).2, event.audit? = none := by
  cases stage with
  | submitting =>
    unfold react
    dsimp only
    split <;> simp [Event.audit?]
  | asking handle polls =>
    unfold react
    dsimp only
    split <;> simp [Event.audit?]
  | expiring handle => exact cancelEvents_unaudited handle.statementId x.answer
  | reading result =>
    unfold react
    dsimp only
    split <;> simp
  | waiting handle polls => simp [react]
  | finished outcome => simp [react]

/-- Neither is what is recorded without a request. -/
theorem rest_audits [Add τ] (e : Execution τ) (s : Session τ) (stage : Stage) :
    (e.rest s stage).2.audits = s.audits := by
  cases stage with
  | waiting handle polls =>
    simp only [rest]
    split
    · cases e.job.interval with
      | ok interval => exact s.audits_pause _
      | error fault => rfl
    · rfl
  | reading result =>
    simp only [rest]
    split
    · rfl
    · rw [Session.audits_note]
      exact List.append_nil _
  | _ => rfl

end Execution

variable [Zero τ] [Add τ] [Sub τ] [LT τ] [LE τ] [DecidableLT τ] [DecidableLE τ] [Timeline τ]

/-- **An execution leaves no audit record.** -/
theorem Course.audits_eq {e : Execution τ} {start s : Session τ} {xs : List (Exchange τ)}
    {stage : Stage} (h : Course e start xs stage s) : s.audits = start.audits := by
  induction h with
  | begin => rfl
  | ask prior asks made ih =>
    rw [Session.audits_noteAll _ _ (e.react_unaudited _ _)]
    exact ih
  | rest prior asks ih => rw [Execution.rest_audits, ih]

theorem Client.execute_audits (client : Client τ) (patience : Nat) (job : Job τ) (s : Session τ) :
    (client.execute patience job s).2.audits = s.audits := by
  rcases execute_course client job s patience with ⟨failure, -, heq⟩ | ⟨fault, -, -, heq⟩ |
    ⟨connection, xs, stage, ended, -, -, hcourse, heq⟩
  · rw [heq]
  · rw [heq]
  · rw [heq]
    exact hcourse.audits_eq

end Warehouse

open Warehouse (Session Stop)
open Json (Document)

namespace Engine

variable {τ : Type} [Zero τ] [Add τ] [Sub τ] [LT τ] [LE τ] [DecidableLT τ] [DecidableLE τ]
  [Timeline τ] (engine : Engine τ) (correlation : Option String) (s : Session τ)

omit [Zero τ] [Add τ] [Sub τ] [LT τ] [LE τ] [DecidableLT τ] [DecidableLE τ] [Timeline τ] in
theorem noteStatement_audits (context sql hash : String) :
    (engine.noteStatement context sql hash correlation s).audits = s.audits := by
  unfold noteStatement
  split
  · rw [Session.audits_note]
    exact List.append_nil _
  · rfl

theorem execute_audits (terms : Terms τ) (sql : String) :
    (engine.execute terms sql correlation s).2.audits = s.audits := by
  unfold execute
  split
  · rfl
  · rfl
  · rfl
  · rfl
  · exact engine.client.execute_audits _ _ _

theorem report_audits {α : Type} (context : String) (terms : Terms τ) (statement : Sql.Statement)
    (read : List Document → Except Failure (List α)) :
    (engine.report engine.execute context terms statement read correlation s).2.audits = s.audits := by
  unfold report
  dsimp only
  cases Sql.fingerprint statement.text with
  | error what => rfl
  | ok hash =>
    have hended := engine.execute_audits correlation
      (engine.noteStatement context statement.text hash correlation s) terms statement.text
    rw [noteStatement_audits] at hended
    dsimp only
    generalize engine.execute terms statement.text correlation
      (engine.noteStatement context statement.text hash correlation s) = ran at hended
    obtain ⟨stop | result, ended⟩ := ran
    · exact hended
    · dsimp only
      split <;> exact hended

theorem conduct_audits {α β : Type} (context : String) (terms : Terms τ)
    (read : List Document → Except Failure (List α)) (compiled : Except Stop Sql.Statement)
    (wrap : Findings α → β) {event : Sql.Statement → Findings α → Event}
    (hevent : ∀ statement found, (event statement found).audit? = none) :
    (engine.conduct context terms read correlation s engine.execute compiled wrap event).2.audits =
      s.audits := by
  unfold conduct
  cases compiled with
  | error stop => rfl
  | ok statement =>
    have hreport := engine.report_audits correlation s context terms statement read
    dsimp only
    generalize engine.report engine.execute context terms statement read correlation s = ran at hreport
    obtain ⟨stop | found, ended⟩ := ran
    · exact hreport
    · dsimp only
      rw [Session.audits_note, hevent]
      exact (List.append_nil _).trans hreport

/-- **The engine leaves no audit record**, however it answers. -/
theorem answerKpi_audits (request : KpiRequest) :
    (engine.answerKpi request correlation s).2.audits = s.audits := by
  rw [answerKpi, answerKpiBy_eq_conduct]
  exact engine.conduct_audits correlation s _ _ _ _ _ fun _ _ => rfl

theorem answerOptions_audits (request : OptionsRequest) :
    (engine.answerOptions request correlation s).2.audits = s.audits := by
  rw [answerOptions, answerOptionsBy_eq_conduct]
  exact engine.conduct_audits correlation s _ _ _ _ _ fun _ _ => rfl

end Engine

end Indicator
