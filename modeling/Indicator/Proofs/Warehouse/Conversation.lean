import Indicator.Proofs.Warehouse.Cancellation
import Indicator.Proofs.Warehouse.Deadline
import Indicator.Proofs.Warehouse.Termination

/-!
# Conversations with a warehouse

What an execution sends to a warehouse, whatever it answers and however long it takes. A statement
that has an address is submitted unless the deadline is spent at once, and the execution goes on
sending until it is over.

* `Execution.steps_le`: of two steps one sends a request, until the execution is over.
* `Client.Unsubmitted`: why nothing is sent. `Client.sent_of_spent`, `Client.unsubmitted_of_sent`.
* `Client.execute_conversation`: **the requests that an execution sends are a conversation.**
* `Client.execute_cancel_untimed`: where a reply is not plain, a statement may be cancelled and the
  deadline not be told.
-/

namespace Indicator.Warehouse

variable {τ : Type}

/-! ### Requests and steps -/

theorem Heard.length_eq {order : Order} {xs : List (Exchange τ)} {handle : Handle} {polls : Nat}
    (h : Heard order xs handle polls) : xs.length = polls + 1 := by
  induction h with
  | submit _ _ => rfl
  | poll _ _ _ _ ih => rw [List.length_append, ih, List.length_singleton]

theorem Pages.length_eq {order : Order} {xs : List (Exchange τ)} {result : Progress}
    (h : Pages order xs result) : xs.length = result.polls + result.fetched.length + 1 := by
  induction h with
  | first heard _ => exact heard.length_eq
  | next _ _ _ _ _ ih =>
    rw [List.length_append, ih]
    simp only [Progress.extend, List.length_append, List.length_singleton]
    omega

section

variable [Zero τ] [Sub τ] [LT τ] [DecidableLT τ] [Timeline τ]

/-- Each question after the state adds two to the age, and each chunk adds one. -/
theorem Execution.History.age_le {e : Execution τ} {xs : List (Exchange τ)} {stage : Stage}
    (h : e.History xs stage) (hsent : Answerable xs) : stage.age ≤ 2 * (sent xs).length := by
  cases stage with
  | waiting handle polls =>
    rw [hsent.sent_eq h.1.answered, h.1.length_eq, Stage.age]
    omega
  | asking handle polls =>
    rw [hsent.sent_eq h.1.answered, h.1.length_eq, Stage.age]
    omega
  | reading result =>
    have pages : Pages e.order xs result := h
    rw [hsent.sent_eq pages.answered, pages.length_eq, Stage.age]
    omega
  | submitting => exact Nat.zero_le _
  | expiring handle => exact Nat.zero_le _
  | finished outcome => exact Nat.zero_le _

end

variable [Zero τ] [Add τ] [Sub τ] [LT τ] [LE τ] [DecidableLT τ] [DecidableLE τ] [Timeline τ]

namespace Course

variable {e : Execution τ} {start s : Session τ} {xs : List (Exchange τ)} {stage : Stage}

theorem answerable (h : Course e start xs stage s) : Answerable xs := by
  intro x hx response hanswer
  obtain ⟨_, _, _, _, _, -, -, -, hmade⟩ := h.made hx
  exact Session.sent_of_response hmade hanswer

/-- A cancellation has the time that it takes to be sent. -/
theorem sent_of_quiet (htimeout : ¬ e.client.httpTimeout ≤ 0) (h : Course e start xs stage s)
    {x : Exchange τ} (hx : x ∈ xs) (hcancels : x.Cancels)
    (hquiet : ∀ fault, x.answer ≠ .fault fault) : x.url.isSome := by
  obtain ⟨id, herrand⟩ := hcancels
  obtain ⟨_, _, _, limit, script, -, -, hasks, hmade⟩ := h.made hx
  rw [herrand] at hasks hmade
  obtain ⟨hlimit, -⟩ := Execution.asks_cancel hasks
  rw [Option.isSome_iff_ne_none]
  intro hurl
  rcases Session.answer_of_unsent hmade hurl with ⟨hlate, -⟩ | ⟨fault, -, hfault⟩
  · rw [hlimit] at hlate
    exact htimeout hlate
  · exact hquiet fault hfault

theorem conversation (htimeout : ¬ e.client.httpTimeout ≤ 0) (h : Course e start xs stage s) :
    Conversation e.order (sent xs) stage.outcome :=
  h.history.conversation h.answerable fun _ hx => h.sent_of_quiet htimeout hx

end Course

/-- **Of two steps one sends a request**, until the execution is over. -/
theorem Execution.steps_le {e : Execution τ} {s : Session τ} {steps : Nat} {xs : List (Exchange τ)}
    (hmade : (e.run (steps + 1) (.submitting, s)).2.exchanges = s.exchanges ++ xs)
    (hopen : ∀ outcome, (e.run (steps + 1) (.submitting, s)).1 ≠ .finished outcome) :
    steps ≤ 2 * (sent xs).length := by
  have hbegin : Course e s [] .submitting s := .begin
  obtain ⟨ys, hcourse⟩ := hbegin.run steps
  obtain ⟨zs, hnext⟩ := hcourse.step
  rw [run_succ_last] at hmade hopen
  have hclosing : ¬ (e.run steps (.submitting, s)).1.Closing := by
    intro hclosing
    obtain ⟨outcome, hover⟩ := finished_of_closing (e := e)
      (s := (e.run steps (.submitting, s)).2) hclosing
    exact hopen outcome hover
  rw [hnext.exchanges_eq, List.append_cancel_left_eq] at hmade
  have hage : (e.run steps (.submitting, s)).1.age = steps :=
    (e.run_age s steps).resolve_left hclosing
  calc steps = (e.run steps (.submitting, s)).1.age := hage.symm
    _ ≤ 2 * (sent ([] ++ ys)).length := hcourse.history.age_le hcourse.answerable
    _ ≤ 2 * (sent xs).length := by
      rw [← hmade, sent_append ([] ++ ys), List.length_append]
      omega

/-! ### Executions -/

namespace Client

variable {client : Client τ} {connection : Connection} {job : Job τ} {s : Session τ}
  {patience : Nat} {x : Exchange τ} {script : Script τ} {xs : List (Exchange τ)}

/-- **Why nothing is sent**, and what is told then: the deadline is spent at once, or the statement
has no address to be submitted to. -/
inductive Unsubmitted (client : Client τ) (job : Job τ) (s : Session τ) : Except Stop Result → Prop
  | spent (late : client.Spent job s) :
      Unsubmitted client job s (.error (.failure (.pastDeadline .submit)))
  | unaddressed {fault : Fault} (address : client.submissionTo job.statement = .error fault) :
      Unsubmitted client job s (.error (.fault fault))

omit [Add τ] [DecidableLE τ] [Timeline τ] in
theorem bounded_of_late {deadline now : τ} (htimeout : ¬ client.httpTimeout ≤ 0)
    (h : (client.limitAt (some deadline) now).1 ≤ 0) :
    (client.limitAt (some deadline) now).2 = true := by
  unfold limitAt at h ⊢
  dsimp only at h ⊢
  split at h
  · rename_i hbounded
    rw [if_pos hbounded]
  · exact absurd h htimeout

theorem submitted_of_unsent (hconn : client.connect = .ok connection)
    (htimeout : ¬ client.httpTimeout ≤ 0)
    (h : s.exchange connection ((client.execution connection job s).limit s.now)
      (.submit (client.order job.statement)) = (x, script)) (hurl : x.url = none) :
    ∃ stop, (client.execution connection job s).submitted x = .error stop ∧
      client.Unsubmitted job s (.error stop) := by
  have hstart := Session.startedAt_of_exchange h
  unfold Execution.submitted documentOf responseOf
  rcases Session.answer_of_unsent h hurl with ⟨hlate, hanswer⟩ | ⟨fault, haddress, hanswer⟩
  · have hbounded : (client.limitAt (some (s.now + job.deadline)) s.now).2 = true :=
      bounded_of_late htimeout hlate
    refine ⟨.failure (.pastDeadline .submit), ?_, .spent hlate⟩
    rw [hanswer, hstart]
    simp only [execution, hbounded, if_true]
    rfl
  · have hnone : client.submissionTo job.statement = .error fault := by
      rw [submissionTo, hconn]
      exact haddress
    refine ⟨.fault fault, ?_, .unaddressed hnone⟩
    rw [hanswer]
    rfl

theorem execute_of_unsent (steps : Nat) (hconf : client.checkConfigured = .ok ())
    (hconn : client.connect = .ok connection) (htimeout : ¬ client.httpTimeout ≤ 0)
    (h : s.exchange connection ((client.execution connection job s).limit s.now)
      (.submit (client.order job.statement)) = (x, script)) (hurl : x.url = none) :
    client.Unsubmitted job s (client.execute (steps + 1) job s).1 ∧
      (client.execute (steps + 1) job s).2.exchanges = s.exchanges ++ [x] := by
  obtain ⟨stop, hstop, hunsubmitted⟩ := submitted_of_unsent hconn htimeout h hurl
  rw [execute_unsubmitted steps hconf hconn h hstop]
  exact ⟨hunsubmitted, rfl⟩

theorem sent_of_spent (hconf : client.checkConfigured = .ok ())
    (hconn : client.connect = .ok connection) (htimeout : ¬ client.httpTimeout ≤ 0)
    (hspent : client.Spent job s)
    (hmade : (client.execute patience job s).2.exchanges = s.exchanges ++ xs) : sent xs = [] := by
  cases patience with
  | zero =>
    rw [execute_connected hconf hconn, Execution.run] at hmade
    rw [List.self_eq_append_right.mp hmade]
    rfl
  | succ steps =>
    have hfirst : s.exchange connection ((client.execution connection job s).limit s.now)
        (.submit (client.order job.statement)) = _ := Session.exchange_late hspent
    rw [(execute_of_unsent steps hconf hconn htimeout hfirst rfl).2,
      List.append_cancel_left_eq] at hmade
    rw [← hmade]
    rfl

/-- Nothing else keeps an execution from being begun. -/
theorem unsubmitted_of_sent {steps : Nat} (hconf : client.checkConfigured = .ok ())
    (hconn : client.connect = .ok connection) (htimeout : ¬ client.httpTimeout ≤ 0)
    (hmade : (client.execute (steps + 1) job s).2.exchanges = s.exchanges ++ xs)
    (hnone : sent xs = []) : client.Unsubmitted job s (client.execute (steps + 1) job s).1 := by
  obtain ⟨x, script, hfirst⟩ : ∃ x script, s.exchange connection
      ((client.execution connection job s).limit s.now)
      (.submit (client.order job.statement)) = (x, script) := ⟨_, _, rfl⟩
  obtain ⟨rest, stage, ended, hcourse, hrun⟩ := execute_first steps hconf hconn hfirst
  rw [hrun, hcourse.exchanges_eq, List.append_cancel_left_eq] at hmade
  have hurl : x.url = none := by
    cases hx : x.url with
    | none => rfl
    | some url => simp [← hmade, sent, hx] at hnone
  exact (execute_of_unsent steps hconf hconn htimeout hfirst hurl).1

theorem patience_le (hconf : client.checkConfigured = .ok ())
    (hconn : client.connect = .ok connection)
    (hmade : (client.execute patience job s).2.exchanges = s.exchanges ++ xs)
    (hunfinished : (client.execute patience job s).1 = .error .unfinished) :
    patience ≤ 2 * (sent xs).length + 1 := by
  cases patience with
  | zero => exact Nat.zero_le _
  | succ steps =>
    rw [execute_connected hconf hconn] at hmade hunfinished
    refine Nat.succ_le_succ (Execution.steps_le hmade fun outcome hover => ?_)
    have hbegin : Course (client.execution connection job s) s [] .submitting s := .begin
    obtain ⟨ys, hcourse⟩ := hbegin.run (steps + 1)
    rw [hover] at hcourse hunfinished
    obtain rfl : outcome = .error .unfinished := hunfinished
    have hended : (client.execution connection job s).Ended ([] ++ ys) (.error .unfinished) :=
      hcourse.history
    exact hended.ne_unfinished rfl

/-- **The requests that an execution sends are a conversation**, whatever the warehouse answers and
however long it takes. Nothing is sent if the deadline is spent at once; otherwise, as soon as a step
is granted, only if the statement has no address to be submitted to. An execution that runs out of
steps has sent a request in one of two. If the replies are plain, a statement is cancelled exactly
if it expires. -/
theorem execute_conversation (hconf : client.checkConfigured = .ok ())
    (htimeout : ¬ client.httpTimeout ≤ 0) (job : Job τ) (s : Session τ) (patience : Nat) :
    ∃ xs, (client.execute patience job s).2.exchanges = s.exchanges ++ xs ∧
      Conversation (client.order job.statement) (sent xs) (client.execute patience job s).1 ∧
      Lines ((sent xs).map (·.errand.line)) ∧
      (client.Spent job s → sent xs = []) ∧
      (0 < patience → sent xs = [] →
        client.Unsubmitted job s (client.execute patience job s).1) ∧
      ((client.execute patience job s).1 = .error .unfinished →
        patience ≤ 2 * (sent xs).length + 1) ∧
      (s.script.Plain →
        ((∃ x ∈ sent xs, x.Cancels) ↔ Expires (sent xs) (client.execute patience job s).1)) := by
  rcases execute_course client job s patience with ⟨failure, hfail, -⟩ | ⟨fault, -, hconn, heq⟩ |
    ⟨connection, xs, stage, ended, -, hconn, hcourse, heq⟩
  · rw [hfail] at hconf
    cases hconf
  · have hnone : client.submissionTo job.statement = .error fault := by
      rw [submissionTo, hconn]
      rfl
    have htalk : Conversation (client.order job.statement) (sent ([] : List (Exchange τ)))
        (.error (.fault fault)) := conversation_nil (by simp)
    rw [heq]
    exact ⟨[], by simp, htalk, htalk.lines, fun _ => rfl, fun _ _ => .unaddressed hnone, by simp,
      fun _ => htalk.cancels_iff (by simp [sent])⟩
  · have hmade : (client.execute patience job s).2.exchanges = s.exchanges ++ xs := by
      rw [heq]
      exact hcourse.exchanges_eq
    have htalk : Conversation (client.order job.statement) (sent xs)
        (client.execute patience job s).1 := by
      rw [heq]
      exact hcourse.conversation htimeout
    refine ⟨xs, hmade, htalk, htalk.lines,
      fun hspent => sent_of_spent hconf hconn htimeout hspent hmade,
      fun hpatience hnone => ?_, patience_le hconf hconn hmade, fun hplain => ?_⟩
    · obtain ⟨steps, rfl⟩ := Nat.exists_eq_add_one.mpr hpatience
      exact unsubmitted_of_sent hconf hconn htimeout hmade hnone
    · refine htalk.cancels_iff fun x hx hcancels fault hfault => ?_
      obtain ⟨hx, hsent⟩ := List.mem_filter.mp hx
      rw [hcourse.unsent_of_fault (base_of_connect hconn) hplain hx hcancels hfault] at hsent
      cases hsent

end Client

/-! ### Executions with exact times -/

/-- A statement that may take one second, with half a second between two questions. -/
def hastyJob : Job Rat := { exactJob with deadline := 1 }

namespace Client

/-- A statement that does not come to an end is submitted, asked for once and cancelled. -/
theorem execute_conversation_pending :
    exactClient.checkConfigured = .ok () ∧ ¬ exactClient.httpTimeout ≤ 0 ∧
      pendingSession.script.Plain ∧ ¬ exactClient.Spent hastyJob pendingSession ∧
      ∃ xs, (exactClient.execute 12 hastyJob pendingSession).2.exchanges =
          pendingSession.exchanges ++ xs ∧
        Conversation (exactClient.order hastyJob.statement) (sent xs)
          (exactClient.execute 12 hastyJob pendingSession).1 ∧
        (sent xs).map (·.errand.line) = [("POST", "/api/2.0/sql/statements"),
          ("GET", "/api/2.0/sql/statements/stmt-1"),
          ("POST", "/api/2.0/sql/statements/stmt-1/cancel")] ∧
        Expires (sent xs) (exactClient.execute 12 hastyJob pendingSession).1 := by
  have hconf : exactClient.checkConfigured = .ok () := by rfl
  have htimeout : ¬ exactClient.httpTimeout ≤ 0 := by decide
  have htime : ¬ exactClient.Spent hastyJob pendingSession := by
    rw [spent_iff (by decide)]
    decide
  have hsent : (sent (exactClient.execute 12 hastyJob pendingSession).2.exchanges).map
        (·.errand.line) = [("POST", "/api/2.0/sql/statements"),
          ("GET", "/api/2.0/sql/statements/stmt-1"),
          ("POST", "/api/2.0/sql/statements/stmt-1/cancel")] ∧
      ∃ x ∈ sent (exactClient.execute 12 hastyJob pendingSession).2.exchanges, x.Cancels := by
    decide +kernel
  obtain ⟨xs, hmade, htalk, -, -, -, -, hexpires⟩ :=
    execute_conversation hconf htimeout hastyJob pendingSession 12
  obtain rfl : (exactClient.execute 12 hastyJob pendingSession).2.exchanges = xs := hmade
  obtain ⟨hlines, hcancelled⟩ := hsent
  exact ⟨hconf, htimeout, pendingSession_plain, htime, _, rfl, htalk, hlines,
    (hexpires pendingSession_plain).mp hcancelled⟩

/-- **A cancellation is sent, and another error than the deadline is told**: its reply leads on to
what is no address. -/
theorem execute_cancel_untimed :
    (∃ x ∈ sent (exactClient.execute 12 briefJob
        (pendingSession.reserving strayCancel)).2.exchanges, x.Cancels) ∧
      ¬ TimedOut (exactClient.execute 12 briefJob (pendingSession.reserving strayCancel)).1 := by
  have hrun : (∃ x ∈ sent (exactClient.execute 12 briefJob
        (pendingSession.reserving strayCancel)).2.exchanges, x.Cancels) ∧
      errorOf? (exactClient.execute 12 briefJob (pendingSession.reserving strayCancel)).1 =
        some (.fault (.badUrl .missingSlash)) := by
    decide +kernel
  obtain ⟨hcancelled, htold⟩ := hrun
  rw [errorOf?_eq_some.mp htold]
  exact ⟨hcancelled, not_timedOut_fault⟩

end Client

end Indicator.Warehouse
