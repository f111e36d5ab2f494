import Indicator.Proofs.Engine
import Indicator.Proofs.Warehouse.Deadline
import Indicator.Proofs.Warehouse.Order
import Indicator.Proofs.Web.Response

/-!
# The time limit of a request

The settings give a request more time than the longest statement takes together with its
cancellation. With exact times no request runs out of it: the layer that ends late requests lets
every answer through, so that no caller is told of a request timeout.

* `Client.execute_now_le`, `Engine.answerKpi_now_le`, `Service.serve_now_le`: how long the layers
  take, from the client of the warehouse outwards.
* `Stop.Inner`: what stops a layer inside of the service, which is no request timeout.
* `Service.answer_inTime`: **every request is answered within its time**, by what serves it.
-/

namespace Indicator

open Warehouse (Client Course Execution Exchange Job Session Stage Stop)
open Json (Document Members)

/-! ### Durations -/

section

variable {τ : Type} [AddCommGroup τ] [LinearOrder τ] [IsOrderedAddMonoid τ] [Timeline τ]

/-- An execution ends within its deadline and the time of one request. -/
theorem Warehouse.Client.execute_now_le (client : Client τ) (job : Job τ) (s : Session τ)
    (patience : Nat) (hdeadline : 0 ≤ job.deadline) (hlimit : 0 ≤ client.httpTimeout) :
    (client.execute patience job s).2.now ≤ s.now + (job.deadline + client.httpTimeout) := by
  obtain ⟨xs, -, hpunctual⟩ := (client.execute_punctual job s patience).1
  have hend := hpunctual.clock_le
  rw [max_eq_right (le_add_of_nonneg_right hdeadline), max_eq_right hlimit, add_assoc] at hend
  exact hend

namespace Engine

variable (engine : Engine τ) {terms : Terms τ} {deadline : τ} (correlation : Option String)
  (s : Session τ)

theorem execute_now_le (hterms : terms.deadline = .ok deadline) (hdeadline : 0 ≤ deadline)
    (hlimit : 0 ≤ engine.client.httpTimeout) (sql : String) :
    (engine.execute terms sql correlation s).2.now ≤
      s.now + (deadline + engine.client.httpTimeout) := by
  have hnone : s.now ≤ s.now + (deadline + engine.client.httpTimeout) :=
    le_add_of_nonneg_right (add_nonneg hdeadline hlimit)
  unfold execute
  split
  · exact hnone
  · exact hnone
  · exact hnone
  · exact hnone
  · rename_i found _ hfound _ _
    rw [hterms, Except.ok.injEq] at hfound
    subst hfound
    exact engine.client.execute_now_le ⟨sql, terms.interval, deadline, correlation⟩ s _ hdeadline
      hlimit

/-- A request for an answer takes no longer than its execution. -/
theorem Answered.now_le {α : Type} {hashOf : α → String} {compiled : Except Stop Sql.Statement}
    {done : Except Stop α × Session τ}
    (h : engine.Answered terms correlation hashOf s compiled done)
    (hterms : terms.deadline = .ok deadline) (hdeadline : 0 ≤ deadline)
    (hlimit : 0 ≤ engine.client.httpTimeout) :
    done.2.now ≤ s.now + (deadline + engine.client.httpTimeout) := by
  have hnone : s.now ≤ s.now + (deadline + engine.client.httpTimeout) :=
    le_add_of_nonneg_right (add_nonneg hdeadline hlimit)
  cases h with
  | refused _ nothing =>
    rw [nothing]
    exact hnone
  | unwritten _ _ nothing =>
    rw [nothing]
    exact hnone
  | carried _ _ now _ carried =>
    rw [carried.now, ← now]
    exact engine.execute_now_le correlation _ hterms hdeadline hlimit _

theorem answerKpi_now_le (hterms : engine.kpiTerms.deadline = .ok deadline)
    (hdeadline : 0 ≤ deadline) (hlimit : 0 ≤ engine.client.httpTimeout) (request : KpiRequest) :
    (engine.answerKpi request correlation s).2.now ≤
      s.now + (deadline + engine.client.httpTimeout) :=
  (engine.answerKpi_answered request correlation s).now_le engine correlation s hterms hdeadline
    hlimit

theorem answerOptions_now_le (hterms : engine.optionsTerms.deadline = .ok deadline)
    (hdeadline : 0 ≤ deadline) (hlimit : 0 ≤ engine.client.httpTimeout) (request : OptionsRequest) :
    (engine.answerOptions request correlation s).2.now ≤
      s.now + (deadline + engine.client.httpTimeout) :=
  (engine.answerOptions_answered request correlation s).now_le engine correlation s hterms hdeadline
    hlimit

end Engine

omit [IsOrderedAddMonoid τ] [Timeline τ] in
theorem Settings.longest_eq (settings : Settings τ) : settings.longest =
    max settings.kpiDeadline settings.optionsDeadline + settings.httpTimeout := by
  rw [Settings.longest, Warehouse.later_eq_max]

/-! ### What stops a request -/

omit [AddCommGroup τ] [LinearOrder τ] [IsOrderedAddMonoid τ] [Timeline τ] in
theorem Failure.kind_eq_requestTimeout {failure : Failure} :
    failure.kind = .requestTimeout ↔ failure = .requestTimeout := by
  cases failure with
  | refused phase status message statement =>
    simp only [Failure.kind, reduceCtorEq, iff_false]
    split <;> simp
  | _ => simp [Failure.kind]

end

/-- What stops a layer inside of the service: a failure or a fault, but no request timeout. -/
def Warehouse.Stop.Inner (stop : Stop) : Prop := stop ≠ .failure .requestTimeout

section

variable {τ : Type} [Zero τ] [Sub τ] [LT τ] [DecidableLT τ] [Timeline τ]

namespace Warehouse

theorem Client.inner_of_documentOf {client : Client τ} {deadline : Option τ} {phase : Phase}
    {statement : Option String} {x : Exchange τ} {stop : Stop}
    (h : client.documentOf deadline phase statement x = .error stop) : stop.Inner := by
  rintro rfl
  unfold documentOf responseOf at h
  cases hanswer : x.answer with
  | response response =>
    simp only [hanswer] at h
    have haccept : accept phase statement response = .error (.failure .requestTimeout) := h
    unfold accept at haccept
    split at haccept
    · dsimp only at haccept
      split at haccept <;> cases haccept
    · split at haccept <;> cases haccept
  | broken reason =>
    simp only [hanswer] at h
    cases h
  | timedOut =>
    simp only [hanswer] at h
    split at h <;> cases h
  | fault fault =>
    simp only [hanswer] at h
    cases h

theorem Client.inner_of_handle {client : Client τ} {deadline : Option τ} {phase : Phase}
    {statement known : Option String} {x : Exchange τ} {stop : Stop}
    (h : client.documentOf deadline phase statement x >>= readHandle known = .error stop) :
    stop.Inner := by
  cases hdocument : client.documentOf deadline phase statement x with
  | ok document =>
    rw [hdocument] at h
    obtain ⟨what, rfl⟩ := readHandle_eq_error h
    simp [Stop.Inner]
  | error found =>
    rw [hdocument] at h
    cases h
    exact inner_of_documentOf hdocument

theorem Execution.Ended.inner {e : Execution τ} {xs : List (Exchange τ)}
    {outcome : Except Stop Result} (ended : e.Ended xs outcome) {stop : Stop}
    (h : outcome = .error stop) : stop.Inner := by
  cases ended with
  | unsubmitted _ stopped =>
    cases h
    exact Client.inner_of_handle stopped
  | unheard _ _ _ stopped _ =>
    cases h
    exact Client.inner_of_handle stopped
  | unfetched _ _ _ _ stopped =>
    cases h
    exact Client.inner_of_documentOf stopped
  | rejected | unsuccessful | unpaged | unlinked | unchunked | expired =>
    cases h
    simp [Stop.Inner]
  | unpaused | uncancelled =>
    cases h
    simp [Stop.Inner]
  | complete => cases h

variable [Add τ] [LE τ] [DecidableLE τ]

theorem Client.execute_inner (client : Client τ) (job : Job τ) (s : Session τ) (patience : Nat)
    {stop : Stop} (h : (client.execute patience job s).1 = .error stop) : stop.Inner := by
  rcases execute_course client job s patience with ⟨failure, hconf, heq⟩ | ⟨fault, -, -, heq⟩ |
    ⟨connection, xs, stage, ended, -, -, hcourse, heq⟩
  · rw [heq, checkConfigured_eq_error hconf] at h
    cases h
    simp [Stop.Inner]
  · rw [heq] at h
    cases h
    simp [Stop.Inner]
  · rw [heq] at h
    have hhistory := hcourse.history
    cases stage with
    | finished outcome => exact Execution.Ended.inner hhistory h
    | submitting | waiting | asking | expiring | reading =>
      cases h
      simp [Stop.Inner]

end Warehouse

namespace Engine

variable [Add τ] [LE τ] [DecidableLE τ] (engine : Engine τ) (correlation : Option String)
  (s : Session τ)

theorem execute_inner {terms : Terms τ} {sql : String} {stop : Stop}
    (h : (engine.execute terms sql correlation s).1 = .error stop) : stop.Inner := by
  unfold execute at h
  split at h
  · rename_i failure _ _ _ hconf
    rw [Client.checkConfigured_eq_error hconf] at h
    cases h
    simp [Stop.Inner]
  · cases h
    simp [Stop.Inner]
  · cases h
    simp [Stop.Inner]
  · cases h
    simp [Stop.Inner]
  · exact engine.client.execute_inner _ _ _ h

/-- A request for an answer is stopped by what is wrong with it, or by what stops an execution. -/
theorem Answered.inner {α : Type} {terms : Terms τ} {hashOf : α → String}
    {compiled : Except Stop Sql.Statement} {done : Except Stop α × Session τ} {stop : Stop}
    (h : engine.Answered terms correlation hashOf s compiled done)
    (hcompiled : ∀ stop, compiled = .error stop → stop.Inner) (hstop : done.1 = .error stop) :
    stop.Inner := by
  cases h with
  | refused refusal nothing =>
    rw [nothing] at hstop
    cases hstop
    exact hcompiled _ refusal
  | unwritten _ _ nothing =>
    rw [nothing] at hstop
    cases hstop
    simp [Stop.Inner]
  | carried _ _ _ _ carried =>
    rcases carried.stopped stop hstop with hexecuted | ⟨what, rfl⟩ | ⟨fault, rfl⟩
    · exact engine.execute_inner correlation _ hexecuted
    · simp [Stop.Inner]
    · simp [Stop.Inner]

theorem answerKpi_inner {request : KpiRequest} {stop : Stop}
    (h : (engine.answerKpi request correlation s).1 = .error stop) : stop.Inner := by
  refine (engine.answerKpi_answered request correlation s).inner engine correlation s
    (fun stop hstatement => ?_) h
  rcases compileUnder_eq_error hstatement with ⟨limit, failure, hfailure, rfl⟩ | ⟨fault, rfl⟩
  · rw [KpiRequest.statement_eq_error hfailure]
    simp [Stop.Inner]
  · simp [Stop.Inner]

theorem answerOptions_inner {request : OptionsRequest} {stop : Stop}
    (h : (engine.answerOptions request correlation s).1 = .error stop) : stop.Inner := by
  refine (engine.answerOptions_answered request correlation s).inner engine correlation s
    (fun stop hstatement => ?_) h
  rcases compileUnder_eq_error hstatement with ⟨limit, failure, hfailure, rfl⟩ | ⟨fault, rfl⟩
  · rw [OptionsRequest.statement_eq_error hfailure]
    simp [Stop.Inner]
  · simp [Stop.Inner]

end Engine

end

/-! ### Requests to the service -/

namespace Web.Service

section

variable {τ : Type} (service : Service τ)

theorem kind_failureOf {stop : Stop} (h : stop.Inner) :
    (service.failureOf stop).kind ≠ .requestTimeout := by
  cases stop with
  | failure failure =>
    intro hkind
    exact h (congrArg Stop.failure (Failure.kind_eq_requestTimeout.mp hkind))
  | fault fault => simp [failureOf, Failure.kind]
  | unfinished => simp [failureOf, Failure.kind]

/-- A response that does not tell of a request timeout. -/
def Untimed (served : Served) : Prop :=
  ∀ response, served = .response response →
    response.errorKind? ≠ some Kind.requestTimeout.code

theorem untimed_failure {failure : Failure} (h : failure.kind ≠ .requestTimeout) :
    Untimed (.ofResponse (service.failureResponse failure)) := by
  intro response hresponse
  rw [ofResponse_eq hresponse, errorKind_failureResponse]
  intro hcode
  refine h ?_
  revert hcode
  cases failure.kind <;> decide

theorem fromPayload_eq_error {α : Type} {read : Document → Checked α} {payload : Document}
    {failure : Failure} (h : fromPayload read payload = .error failure) :
    ∃ faults, failure = .malformedRequest faults := by
  unfold fromPayload at h
  cases hread : read (orEmpty payload) with
  | ok found =>
    rw [hread] at h
    cases h
  | error faults =>
    rw [hread] at h
    cases h
    exact ⟨faults, rfl⟩

theorem untimed_ping (received : Members) : Untimed (service.servePing received) := by
  intro response hresponse
  unfold servePing at hresponse
  dsimp only at hresponse
  split at hresponse
  · split at hresponse
    · rw [ofResponse_eq hresponse]
      simp
    · cases hresponse
  · cases hresponse

theorem untimed_refusal (refusal : PayloadRefusal) :
    Untimed (.response (service.refusePayload refusal)) := by
  rintro response ⟨⟩
  cases refusal with
  | malformed position => simp [refusePayload, Failure.kind, Kind.code]
  | unreadable => simp [refusePayload]
  | notObject => simp [refusePayload, Failure.kind, Kind.code]

variable [Sub τ] [Timeline τ]

theorem untimed_audited {α : Type} (offer : Offer α) (subject : String)
    (correlation : Option String) (run : Session τ → Except Stop α × Session τ) (s : Session τ)
    (hrun : ∀ stop, (run s).1 = .error stop → stop.Inner) :
    Untimed (service.audited offer subject correlation run s).1 := by
  rcases service.audited_cases offer subject correlation run s with
    heq | ⟨stop, hstop, heq⟩ | ⟨message, heq⟩ | ⟨answer, -, heq⟩
  · rw [heq]
    rintro response hresponse
    cases hresponse
  · rw [heq]
    exact service.untimed_failure (service.kind_failureOf (hrun stop hstop))
  · rw [heq]
    exact service.untimed_failure (by simp [Failure.kind])
  · rw [heq]
    intro response hresponse
    rw [ofResponse_eq hresponse]
    simp

variable [Zero τ] [Add τ] [LT τ] [LE τ] [DecidableLT τ] [DecidableLE τ]

theorem untimed_serveQuery (correlation : Option String) (payload : Members) (s : Session τ) :
    Untimed (service.serveQuery correlation payload s).1 := by
  unfold serveQuery
  split
  · exact service.untimed_ping payload
  · split
    · rename_i failure hpayload
      obtain ⟨faults, rfl⟩ := fromPayload_eq_error hpayload
      exact service.untimed_failure (by simp [Failure.kind])
    · exact service.untimed_audited _ _ _ _ s fun stop =>
        service.engine.answerKpi_inner correlation s

theorem untimed_serveFilters (correlation : Option String) (payload : Members) (s : Session τ) :
    Untimed (service.serveFilters correlation payload s).1 := by
  unfold serveFilters
  split
  · rename_i failure hpayload
    obtain ⟨faults, rfl⟩ := fromPayload_eq_error hpayload
    exact service.untimed_failure (by simp [Failure.kind])
  · exact service.untimed_audited _ _ _ _ s fun stop =>
      service.engine.answerOptions_inner correlation s

theorem untimed_serveEndpoint (request : Incoming) (s : Session τ) (endpoint : Endpoint) :
    Untimed (service.serveEndpoint request s endpoint).1 := by
  unfold serveEndpoint
  split
  · rintro response ⟨⟩
    simp
  · rintro response ⟨⟩
    simp [Outgoing.errorKind?, Outgoing.members, Document.member, Members.get?]
  · rintro response ⟨⟩
    simp [Outgoing.errorKind?, Document.member, Members.get?, Document.finiteMembers]
  · split
    · exact service.untimed_refusal _
    · dsimp only
      split
      · exact service.untimed_serveQuery _ _ s
      · exact service.untimed_serveFilters _ _ s

/-- What serves a request does not tell of a request timeout. -/
theorem untimed_serve (request : Incoming) (s : Session τ) : Untimed (service.serve request s).1 := by
  unfold serve
  split
  · exact service.untimed_serveEndpoint request s _
  · rintro response ⟨⟩
    simp
  · rintro response ⟨⟩
    simp [Outgoing.errorKind?, Outgoing.members, Document.member, Members.get?]
  · rintro response ⟨⟩
    simp

end

section

variable {τ : Type} [AddCommGroup τ] [LinearOrder τ] [IsOrderedAddMonoid τ] [Timeline τ]

/-- Serving a request takes no longer than the longest answer. -/
theorem serve_now_le (service : Service τ) {longest : τ} (hlongest : 0 ≤ longest)
    (hkpi : ∀ request correlation (s : Session τ),
      (service.engine.answerKpi request correlation s).2.now ≤ s.now + longest)
    (hoptions : ∀ request correlation (s : Session τ),
      (service.engine.answerOptions request correlation s).2.now ≤ s.now + longest)
    (request : Incoming) (s : Session τ) :
    (service.serve request s).2.now ≤ s.now + longest := by
  have hnone : s.now ≤ s.now + longest := le_add_of_nonneg_right hlongest
  unfold serve
  split
  · unfold serveEndpoint
    split
    · exact hnone
    · exact hnone
    · exact hnone
    · split
      · exact hnone
      · dsimp only
        split
        · unfold serveQuery
          split
          · exact hnone
          · split
            · exact hnone
            · rw [(service.audited_session _ _ _ _ s).1]
              exact hkpi _ _ s
        · unfold serveFilters
          split
          · exact hnone
          · rw [(service.audited_session _ _ _ _ s).1]
            exact hoptions _ _ s
  · exact hnone
  · exact hnone
  · exact hnone

variable (settings : Settings τ) (errorId today : String) (patience : Nat)

/-- Serving a request takes less time than it is given. -/
theorem serve_lt_requestTimeout (hfits : settings.fitsRequestTimeout = true)
    (hkpi : 0 ≤ settings.kpiDeadline) (hoptions : 0 ≤ settings.optionsDeadline)
    (hlimit : 0 ≤ settings.httpTimeout) (request : Incoming) (s : Session τ) :
    (((ofSettings settings errorId today).granting patience).serve request s).2.now - s.now <
      settings.requestTimeout := by
  have hlongest : settings.longest < settings.requestTimeout := by
    simpa [Settings.fitsRequestTimeout] using hfits
  have hwithin {deadline : τ}
      (hdeadline : deadline ≤ max settings.kpiDeadline settings.optionsDeadline) (now : τ) :
      now + (deadline + settings.httpTimeout) ≤ now + settings.longest := by
    rw [Settings.longest_eq]
    exact add_le_add_right (add_le_add_left hdeadline _) now
  have hnonneg : 0 ≤ settings.longest := by
    rw [Settings.longest_eq]
    exact add_nonneg (hkpi.trans (le_max_left _ _)) hlimit
  have hend : (((ofSettings settings errorId today).granting patience).serve request s).2.now ≤
      s.now + settings.longest :=
    serve_now_le _ hnonneg
      (fun query correlation s =>
        (Engine.answerKpi_now_le _ correlation s rfl hkpi hlimit query).trans
          (hwithin (le_max_left _ _) s.now))
      (fun query correlation s =>
        (Engine.answerOptions_now_le _ correlation s rfl hoptions hlimit query).trans
          (hwithin (le_max_right _ _) s.now)) request s
  exact (sub_le_iff_le_add'.mpr hend).trans_lt hlongest

/-- The layer that ends late requests lets everything through that serves a request. -/
theorem serveInTime_eq (hfits : settings.fitsRequestTimeout = true)
    (hkpi : 0 ≤ settings.kpiDeadline) (hoptions : 0 ≤ settings.optionsDeadline)
    (hlimit : 0 ≤ settings.httpTimeout) (request : Incoming) (s : Session τ) :
    let service := (ofSettings settings errorId today).granting patience
    service.serveInTime request s =
      (service.stamp (service.serve request s).1, (service.serve request s).2) := by
  intro service
  have htime : (service.serve request s).2.now - s.now < settings.requestTimeout :=
    serve_lt_requestTimeout settings errorId today patience hfits hkpi hoptions hlimit request s
  have hpositive : ¬ settings.requestTimeout ≤ 0 := by
    have hlongest : settings.longest < settings.requestTimeout := by
      simpa [Settings.fitsRequestTimeout] using hfits
    rw [Settings.longest_eq] at hlongest
    exact not_le.mpr ((add_nonneg (hkpi.trans (le_max_left _ _)) hlimit).trans_lt hlongest)
  exact serveInTime_ended rfl hpositive (not_le.mpr htime)

/-- **Every request is answered within its time**: under settings that are accepted, what serves it
ends in less time than a request may take, with the cancellation of its statement, and its outcome
is what the caller is told. The error of a request that takes too long is never told. -/
theorem answer_inTime (hfits : settings.fitsRequestTimeout = true)
    (hkpi : 0 ≤ settings.kpiDeadline) (hoptions : 0 ≤ settings.optionsDeadline)
    (hlimit : 0 ≤ settings.httpTimeout) (request : Incoming) (s : Session τ) :
    let service := (ofSettings settings errorId today).granting patience
    (service.serve request s).2.now - s.now < settings.requestTimeout ∧
      service.serveInTime request s =
        (service.stamp (service.serve request s).1, (service.serve request s).2) ∧
      (service.answer request s).1.errorKind? ≠ some Kind.requestTimeout.code := by
  intro service
  have hserved := serveInTime_eq settings errorId today patience hfits hkpi hoptions hlimit request s
  refine ⟨serve_lt_requestTimeout settings errorId today patience hfits hkpi hoptions hlimit request
    s, hserved, ?_⟩
  cases hquestion : Cors.question? request with
  | some question =>
    have hanswer : (service.answer request s).1 = Cors.preflight service.origins question := by
      unfold answer
      rw [hquestion]
    rw [hanswer, errorKind_preflight]
    simp
  | none =>
    rcases service.errorKind_answer hquestion hserved with hkind | ⟨response, hresponse, hmembers⟩
    · rw [hkind]
      decide
    · rw [Outgoing.errorKind_congr hmembers]
      exact service.untimed_serve request s response hresponse

end

/-- The warehouse never comes to an end with the statement, which is canceled in time. -/
theorem answer_inTime_pending :
    Warehouse.exactSettings.fitsRequestTimeout = true ∧
      let service := (ofSettings Warehouse.exactSettings "error-1" "2026-01-15").granting 50
      let request : Incoming :=
        ⟨"POST", "/api/query", [], .document (.object [("kpi", .str "volume")])⟩
      (service.serve request Warehouse.pendingSession).2.now - 0 < 55 ∧
        service.serveInTime request Warehouse.pendingSession =
          (service.stamp (service.serve request Warehouse.pendingSession).1,
            (service.serve request Warehouse.pendingSession).2) ∧
        (service.answer request Warehouse.pendingSession).1.errorKind? ≠
          some Kind.requestTimeout.code :=
  ⟨by decide +kernel, answer_inTime Warehouse.exactSettings "error-1" "2026-01-15" 50
    (by decide +kernel) (by decide +kernel) (by decide +kernel) (by decide +kernel) _ _⟩

end Web.Service

end Indicator
