import Indicator.Proofs.Outcome
import Indicator.Warehouse.Execution

/-!
# The course of an execution

At each step an execution either makes a request or goes on without one. `asks` is the request
that a stage makes, `react` says what follows once it is over, and `rest` what is done without a
request. `step_ask` and `step_rest` put a step together from the three.

* `Course e start xs stage s`: from the session `start` the execution came to `stage` and `s`, and
  `xs` are the exchanges it made, in order.
* `Course.run`: granting more steps prolongs a course.
* `execute_course`: an execution by a client is a course, unless the client cannot connect.
-/

namespace Indicator.Warehouse

open Json (Document Members)

variable {τ : Type}

/-! ### The end of a request -/

/-- The session once an exchange is over. -/
def Session.after (s : Session τ) (x : Exchange τ) (script : Script τ) : Session τ :=
  { s with now := x.endedAt, script, exchanges := s.exchanges ++ [x] }

/-- Adds records of several events to the log. -/
def Session.noteAll (s : Session τ) (correlation : Option String) (events : List Event) :
    Session τ :=
  { s with log := s.log ++ events.map (⟨correlation, ·⟩) }

@[simp] theorem Session.noteAll_nil (s : Session τ) (correlation : Option String) :
    s.noteAll correlation [] = s := by simp [Session.noteAll]

theorem Session.noteAll_singleton (s : Session τ) (correlation : Option String) (event : Event) :
    s.noteAll correlation [event] = s.note correlation event := rfl

@[simp] theorem Session.noteAll_exchanges (s : Session τ) (correlation : Option String)
    (events : List Event) : (s.noteAll correlation events).exchanges = s.exchanges := rfl

@[simp] theorem Session.noteAll_now (s : Session τ) (correlation : Option String)
    (events : List Event) : (s.noteAll correlation events).now = s.now := rfl

@[simp] theorem Session.noteAll_script (s : Session τ) (correlation : Option String)
    (events : List Event) : (s.noteAll correlation events).script = s.script := rfl

@[simp] theorem Session.note_exchanges (s : Session τ) (correlation : Option String)
    (event : Event) : (s.note correlation event).exchanges = s.exchanges := rfl

@[simp] theorem Session.note_now (s : Session τ) (correlation : Option String) (event : Event) :
    (s.note correlation event).now = s.now := rfl

@[simp] theorem Session.note_script (s : Session τ) (correlation : Option String) (event : Event) :
    (s.note correlation event).script = s.script := rfl

section

variable [Zero τ] [Add τ] [LT τ] [DecidableLT τ]

@[simp] theorem Session.pause_exchanges (s : Session τ) (duration : τ) :
    (s.pause duration).exchanges = s.exchanges := by
  unfold Session.pause
  split <;> rfl

@[simp] theorem Session.pause_script (s : Session τ) (duration : τ) :
    (s.pause duration).script = s.script := by
  unfold Session.pause
  split <;> rfl

@[simp] theorem Session.pause_log (s : Session τ) (duration : τ) :
    (s.pause duration).log = s.log := by
  unfold Session.pause
  split <;> rfl

end

/-- The record of how a cancellation ended, if it is recorded. -/
def cancelEvents (statementId : String) : Answer → List Event
  | .response response =>
    if 400 ≤ response.status then [.cancelFailed statementId (.status response.status)]
    else [.cancelled statementId]
  | .broken reason => [.cancelFailed statementId (.broken reason)]
  | .timedOut => [.cancelFailed statementId (.broken "TimeoutError")]
  | .fault _ => []

/-! ### The exchange that a request makes -/

/-- An exchange that asks the warehouse to cancel a statement. -/
def Exchange.Cancels (x : Exchange τ) : Prop := ∃ id, x.errand = .cancel id

instance (x : Exchange τ) : Decidable x.Cancels :=
  match h : x.errand with
  | .cancel id => .isTrue ⟨id, h⟩
  | .submit _ | .poll _ | .fetchChunk _ => .isFalse <| by
    rintro ⟨id, hid⟩
    rw [h] at hid
    cases hid

namespace Session

variable [Zero τ] [Add τ] [LT τ] [LE τ] [DecidableLT τ] [DecidableLE τ] {s : Session τ}
  {connection : Connection} {limit : τ} {errand : Errand} {x : Exchange τ} {script : Script τ}

theorem ask_of_exchange (h : s.exchange connection limit errand = (x, script)) :
    s.ask connection limit errand = (x.answer, s.after x script) := by
  rw [ask, h]
  rfl

theorem exchange_late (hlimit : limit ≤ 0) : s.exchange connection limit errand =
    (s.unsent connection errand .timedOut, s.script) := by
  rw [exchange, if_pos hlimit]

theorem exchange_unwritten (hlimit : ¬ limit ≤ 0) {fault : Fault}
    (haddress : address connection errand = .error fault) :
    s.exchange connection limit errand =
      (s.unsent connection errand (.fault fault), s.script) := by
  rw [exchange, if_neg hlimit, haddress]

theorem exchange_sent (hlimit : ¬ limit ≤ 0) {url : Web.Url}
    (haddress : address connection errand = .ok url) :
    s.exchange connection limit errand =
      let next := s.script.next errand url
      let timed := timeTaken limit next.1.latency
      (⟨errand, some url, connection.credentialFor url, s.now, s.now + timed.2,
        if timed.1 then .ofReply url next.1.reply else .timedOut⟩, next.2) := by
  rw [exchange, if_neg hlimit, haddress]

/-- The ways in which a request goes: it has no time, it cannot be written, or it is sent. -/
theorem exchange_cases (h : s.exchange connection limit errand = (x, script)) :
    (limit ≤ 0 ∧ x = s.unsent connection errand .timedOut ∧ script = s.script) ∨
    (¬ limit ≤ 0 ∧ ∃ fault, address connection errand = .error fault ∧
      x = s.unsent connection errand (.fault fault) ∧ script = s.script) ∨
    (¬ limit ≤ 0 ∧ ∃ url, address connection errand = .ok url ∧
      x = ⟨errand, some url, connection.credentialFor url, s.now,
        s.now + (timeTaken limit (s.script.next errand url).1.latency).2,
        if (timeTaken limit (s.script.next errand url).1.latency).1 then
          .ofReply url (s.script.next errand url).1.reply else .timedOut⟩ ∧
      script = (s.script.next errand url).2) := by
  by_cases hlimit : limit ≤ 0
  · rw [exchange_late hlimit, Prod.mk.injEq] at h
    exact .inl ⟨hlimit, h.1.symm, h.2.symm⟩
  · cases haddress : address connection errand with
    | error fault =>
      rw [exchange_unwritten hlimit haddress, Prod.mk.injEq] at h
      exact .inr (.inl ⟨hlimit, fault, rfl, h.1.symm, h.2.symm⟩)
    | ok url =>
      rw [exchange_sent hlimit haddress, Prod.mk.injEq] at h
      exact .inr (.inr ⟨hlimit, url, rfl, h.1.symm, h.2.symm⟩)

theorem errand_of_exchange (h : s.exchange connection limit errand = (x, script)) :
    x.errand = errand := by
  rcases exchange_cases h with ⟨-, rfl, -⟩ | ⟨-, _, -, rfl, -⟩ | ⟨-, _, -, rfl, -⟩ <;> rfl

theorem startedAt_of_exchange (h : s.exchange connection limit errand = (x, script)) :
    x.startedAt = s.now := by
  rcases exchange_cases h with ⟨-, rfl, -⟩ | ⟨-, _, -, rfl, -⟩ | ⟨-, _, -, rfl, -⟩ <;> rfl

/-- A request that was not sent had no time left or could not be written. -/
theorem answer_of_unsent (h : s.exchange connection limit errand = (x, script))
    (hurl : x.url = none) : (limit ≤ 0 ∧ x.answer = .timedOut) ∨
      ∃ fault, address connection errand = .error fault ∧ x.answer = .fault fault := by
  rcases exchange_cases h with ⟨hlimit, rfl, -⟩ | ⟨-, fault, haddress, rfl, -⟩ | ⟨-, url, -, rfl, -⟩
  · exact .inl ⟨hlimit, rfl⟩
  · exact .inr ⟨fault, haddress, rfl⟩
  · cases hurl

theorem limit_of_sent (h : s.exchange connection limit errand = (x, script))
    (hsent : x.url.isSome) : ¬ limit ≤ 0 := by
  rcases exchange_cases h with ⟨-, rfl, -⟩ | ⟨hlimit, -⟩ | ⟨hlimit, -⟩
  · cases hsent
  · exact hlimit
  · exact hlimit

/-- A response came to a request that was sent. -/
theorem sent_of_response {response : Response}
    (h : s.exchange connection limit errand = (x, script))
    (hanswer : x.answer = .response response) : x.url.isSome := by
  rw [Option.isSome_iff_ne_none]
  intro hurl
  rcases answer_of_unsent h hurl with ⟨-, hlate⟩ | ⟨fault, -, hfault⟩
  · rw [hanswer] at hlate
    cases hlate
  · rw [hanswer] at hfault
    cases hfault

/-- A request that is answered in time. -/
theorem answer_of_reply {url : Web.Url} (hlimit : ¬ limit ≤ 0)
    (haddress : address connection errand = .ok url)
    (h : s.exchange connection limit errand = (x, script))
    (htime : (timeTaken limit (s.script.next errand url).1.latency).1 = true) :
    x.answer = .ofReply url (s.script.next errand url).1.reply := by
  rw [exchange_sent hlimit haddress, Prod.mk.injEq] at h
  rw [← h.1]
  exact if_pos htime

/-- Where the address of a request that was sent comes from. -/
theorem address_of_sent {url : Web.Url} (h : s.exchange connection limit errand = (x, script))
    (hurl : x.url = some url) : connection.base.resolve errand.link = .ok url := by
  rcases exchange_cases h with ⟨-, rfl, -⟩ | ⟨-, fault, -, rfl, -⟩ | ⟨-, found, haddress, rfl, -⟩
  · cases hurl
  · cases hurl
  · obtain rfl : found = url := by simpa using hurl
    unfold address at haddress
    obtain ⟨resolved, hresolved, haddress⟩ := bind_eq_ok.mp haddress
    obtain ⟨-, -, haddress⟩ := bind_eq_ok.mp haddress
    obtain ⟨-, -, haddress⟩ := bind_eq_ok.mp haddress
    cases haddress
    exact mapError_eq_ok.mp hresolved

end Session

/-! ### What an answer comes to -/

namespace Client

variable [Zero τ] [Sub τ] [LT τ] [DecidableLT τ] [Timeline τ]

/-- The response that an exchange ended with, or why there is none. -/
def responseOf (client : Client τ) (deadline : Option τ) (phase : Phase) (x : Exchange τ) :
    Except Stop Response :=
  match x.answer with
  | .response response => .ok response
  | .broken reason => .error (.failure (.unreachable phase reason))
  | .fault fault => .error (.fault fault)
  | .timedOut =>
    let (limit, bounded) := client.limitAt deadline x.startedAt
    .error (.failure (if bounded then .pastDeadline phase
      else .timedOut phase (Timeline.brief limit)))

/-- The document that an exchange brought, or why there is none. -/
def documentOf (client : Client τ) (deadline : Option τ) (phase : Phase)
    (statement : Option String) (x : Exchange τ) : Except Stop Document :=
  client.responseOf deadline phase x >>= accept phase statement

variable [Add τ] [LE τ] [DecidableLE τ] {s : Session τ} {client : Client τ}
  {connection : Connection} {deadline : Option τ} {phase : Phase} {errand : Errand}
  {statement : Option String} {x : Exchange τ} {script : Script τ}

theorem send_of_exchange
    (h : s.exchange connection (client.limitAt deadline s.now).1 errand = (x, script)) :
    client.send connection deadline phase errand s =
      (client.responseOf deadline phase x, s.after x script) := by
  have hstart := Session.startedAt_of_exchange h
  unfold send responseOf
  rw [hstart]
  dsimp only
  rw [Session.ask_of_exchange h]
  cases x.answer <;> rfl

theorem request_of_exchange
    (h : s.exchange connection (client.limitAt deadline s.now).1 errand = (x, script)) :
    client.request connection deadline phase errand statement s =
      (client.documentOf deadline phase statement x, s.after x script) := by
  unfold request documentOf
  rw [send_of_exchange h]
  cases client.responseOf deadline phase x <;> rfl

end Client

/-! ### Steps -/

namespace Execution

variable [Zero τ] [Sub τ] [LT τ] [LE τ] [DecidableLT τ] [DecidableLE τ] [Timeline τ]

/-- The time that a request may take before the deadline. -/
def limit (e : Execution τ) (now : τ) : τ := (e.client.limitAt (some e.deadlineAt) now).1

/-- The request that a stage makes at an instant, with the time it may take. -/
def asks (e : Execution τ) (now : τ) : Stage → Option (τ × Errand)
  | .submitting => some (e.limit now, .submit (e.client.order e.job.statement))
  | .asking handle _ =>
    if e.deadlineAt ≤ now then none else some (e.limit now, .poll handle.statementId)
  | .expiring handle => some (e.client.httpTimeout, .cancel handle.statementId)
  | .reading result =>
    if result.link.truthy then
      result.newLink?.map fun link => (e.limit now, .fetchChunk link)
    else none
  | .waiting _ _ | .finished _ => none

omit [Timeline τ] in
/-- Only an execution that has not begun submits anything. -/
theorem asks_submit {e : Execution τ} {now limit : τ} {stage : Stage} {order : Order}
    (h : e.asks now stage = some (limit, .submit order)) : stage = .submitting := by
  cases stage with
  | submitting => rfl
  | asking handle polls => simp [asks] at h
  | expiring handle => simp [asks] at h
  | reading result => simp [asks] at h
  | waiting handle polls => simp [asks] at h
  | finished outcome => simp [asks] at h

omit [Timeline τ] in
/-- Only an expired execution cancels, and within the client's own limit. -/
theorem asks_cancel {e : Execution τ} {now limit : τ} {stage : Stage} {id : String}
    (h : e.asks now stage = some (limit, .cancel id)) :
    limit = e.client.httpTimeout ∧ ∃ handle, stage = .expiring handle := by
  cases stage with
  | expiring handle =>
    simp only [asks, Option.some.injEq, Prod.mk.injEq] at h
    exact ⟨h.1.symm, handle, rfl⟩
  | submitting => simp [asks] at h
  | asking handle polls => simp [asks] at h
  | reading result => simp [asks] at h
  | waiting handle polls => simp [asks] at h
  | finished outcome => simp [asks] at h

omit [Timeline τ] in
/-- Every other request has the time that is left before the deadline. -/
theorem asks_limit {e : Execution τ} {now limit : τ} {stage : Stage} {errand : Errand}
    (h : e.asks now stage = some (limit, errand)) (hcancel : ∀ id, errand ≠ .cancel id) :
    limit = e.limit now := by
  cases stage with
  | submitting =>
    cases h
    rfl
  | asking handle polls =>
    simp only [asks, Option.ite_none_left_eq_some, Option.some.injEq, Prod.mk.injEq] at h
    exact h.2.1.symm
  | expiring handle =>
    cases h
    exact absurd rfl (hcancel handle.statementId)
  | reading result =>
    simp only [asks, Option.ite_none_right_eq_some, Option.map_eq_some_iff, Prod.mk.injEq] at h
    obtain ⟨-, link, -, hlimit, -⟩ := h
    exact hlimit.symm
  | waiting handle polls => simp [asks] at h
  | finished outcome => simp [asks] at h

/-- The handle that the answer to a submission holds, or why there is none. -/
def submitted (e : Execution τ) (x : Exchange τ) : Except Stop Handle :=
  e.client.documentOf (some e.deadlineAt) .submit (e.client.shown e.job.statement) x >>=
    Client.readHandle none

/-- The handle that the answer to a question after a statement holds, or why there is none. -/
def polled (e : Execution τ) (statementId : String) (x : Exchange τ) : Except Stop Handle :=
  e.client.documentOf (some e.deadlineAt) .poll none x >>= Client.readHandle (some statementId)

/-- What follows the end of a request, and what is recorded of it. -/
def react (e : Execution τ) (x : Exchange τ) : Stage → Stage × List Event
  | .submitting =>
    match e.submitted x with
    | .error stop => (.finished (.error stop), [])
    | .ok handle =>
      (if handle.state = .failed then
          .fail (.rejected handle.ending (e.client.shown e.job.statement))
        else .ofHandle handle 0,
        [.submitted handle.statementId handle.state])
  | .asking handle polls =>
    match e.polled handle.statementId x with
    | .ok next =>
      (.ofHandle next (polls + 1), [.polled next.statementId next.state (polls + 1)])
    | .error (.failure (.pastDeadline _)) => (.expiring handle, [])
    | .error stop => (.finished (.error stop), [])
  | .expiring handle =>
    (match x.answer with
      | .fault fault => .finished (.error (.fault fault))
      | _ => .fail (.expired (Timeline.brief e.job.deadline) handle.statementId handle.state),
      cancelEvents handle.statementId x.answer)
  | .reading result =>
    match e.client.documentOf (some e.deadlineAt) .fetchChunk none x with
    | .ok answer => (.afterChunk result x.errand.link answer, [])
    | .error stop => (.finished (.error stop), [])
  | stage => (stage, [])

omit [LE τ] [DecidableLE τ] in
/-- After a cancellation an execution is over. -/
theorem react_cancel_finished (e : Execution τ) (x : Exchange τ) (handle : Handle) :
    ∃ outcome, (e.react x (.expiring handle)).1 = .finished outcome := by
  simp only [react]
  split
  · exact ⟨_, rfl⟩
  · exact ⟨_, rfl⟩

variable [Add τ]

/-- What a stage does that makes no request. -/
def rest (e : Execution τ) (s : Session τ) : Stage → Stage × Session τ
  | .waiting handle polls =>
    let remaining := e.deadlineAt - s.now
    if 0 < remaining then
      match e.job.interval with
      | .ok interval => (.asking handle polls, s.pause (sooner interval remaining))
      | .error fault => (.finished (.error (.fault fault)), s)
    else (.asking handle polls, s)
  | .asking handle _ => (.expiring handle, s)
  | .reading result =>
    if result.link.truthy then (.breach (.badLink result.statementId result.fetched.length), s)
    else (.finished (.ok result.complete), s.note e.job.correlation
      (.completed result.statementId result.polls result.rows.length))
  | stage => (stage, s)

variable {e : Execution τ} {s : Session τ} {stage : Stage} {limit : τ} {errand : Errand}
  {x : Exchange τ} {script : Script τ}

theorem submit_of_exchange (h : s.exchange e.connection (e.limit s.now)
    (.submit (e.client.order e.job.statement)) = (x, script)) :
    e.step (.submitting, s) =
      ((e.react x .submitting).1,
        (s.after x script).noteAll e.job.correlation (e.react x .submitting).2) := by
  simp only [step, react, Client.submit, Client.request_of_exchange h, submitted]
  cases e.client.documentOf (some e.deadlineAt) .submit (e.client.shown e.job.statement) x >>=
    Client.readHandle none with
  | error stop => simp
  | ok handle =>
    by_cases hfailed : handle.state = .failed
    · simp [hfailed, Stage.fail, Session.noteAll_singleton]
    · simp [hfailed, Session.noteAll_singleton]

theorem poll_of_exchange {handle : Handle} {polls : Nat} (htime : ¬ e.deadlineAt ≤ s.now)
    (h : s.exchange e.connection (e.limit s.now) (.poll handle.statementId) = (x, script)) :
    e.step (.asking handle polls, s) =
      ((e.react x (.asking handle polls)).1,
        (s.after x script).noteAll e.job.correlation (e.react x (.asking handle polls)).2) := by
  simp only [step, react, if_neg htime, Client.poll, Client.request_of_exchange h, polled]
  cases e.client.documentOf (some e.deadlineAt) .poll none x >>=
    Client.readHandle (some handle.statementId) with
  | ok next => simp [Session.noteAll_singleton]
  | error stop =>
    cases stop with
    | failure failure => cases failure <;> simp
    | fault fault => simp
    | unfinished => simp

theorem cancel_of_exchange {handle : Handle}
    (h : s.exchange e.connection e.client.httpTimeout (.cancel handle.statementId) = (x, script)) :
    e.step (.expiring handle, s) =
      ((e.react x (.expiring handle)).1,
        (s.after x script).noteAll e.job.correlation (e.react x (.expiring handle)).2) := by
  simp only [step, react, Client.cancel, Session.ask_of_exchange h]
  cases x.answer with
  | response response =>
    by_cases hstatus : 400 ≤ response.status
    · simp [hstatus, cancelEvents, Session.noteAll_singleton]
    · simp [hstatus, cancelEvents, Session.noteAll_singleton]
  | broken reason => simp [cancelEvents, Session.noteAll_singleton]
  | timedOut => simp [cancelEvents, Session.noteAll_singleton]
  | fault fault => simp [cancelEvents]

theorem fetch_of_exchange {result : Progress} {link : String} (htruthy : result.link.truthy)
    (hlink : result.newLink? = some link)
    (h : s.exchange e.connection (e.limit s.now) (.fetchChunk link) = (x, script)) :
    e.step (.reading result, s) =
      ((e.react x (.reading result)).1,
        (s.after x script).noteAll e.job.correlation (e.react x (.reading result)).2) := by
  simp only [step, react, htruthy, if_true, hlink, Client.request_of_exchange h,
    Session.errand_of_exchange h, Errand.link]
  cases e.client.documentOf (some e.deadlineAt) .fetchChunk none x <;> simp

/-- A step that makes a request. -/
theorem step_ask (hasks : e.asks s.now stage = some (limit, errand))
    (h : s.exchange e.connection limit errand = (x, script)) :
    e.step (stage, s) =
      ((e.react x stage).1, (s.after x script).noteAll e.job.correlation (e.react x stage).2) := by
  cases stage with
  | submitting =>
    cases hasks
    exact submit_of_exchange h
  | asking handle polls =>
    simp only [asks, Option.ite_none_left_eq_some, Option.some.injEq, Prod.mk.injEq] at hasks
    obtain ⟨htime, rfl, rfl⟩ := hasks
    exact poll_of_exchange htime h
  | expiring handle =>
    cases hasks
    exact cancel_of_exchange h
  | reading result =>
    simp only [asks, Option.ite_none_right_eq_some, Option.map_eq_some_iff, Prod.mk.injEq] at hasks
    obtain ⟨htruthy, link, hlink, rfl, rfl⟩ := hasks
    exact fetch_of_exchange htruthy hlink h
  | waiting handle polls => simp [asks] at hasks
  | finished outcome => simp [asks] at hasks

/-- The cancellation is the last step. -/
theorem step_expiring (e : Execution τ) (s : Session τ) (handle : Handle) :
    ∃ outcome s', e.step (.expiring handle, s) = (.finished outcome, s') := by
  obtain ⟨outcome, hfinished⟩ := e.react_cancel_finished
    (s.exchange e.connection e.client.httpTimeout (.cancel handle.statementId)).1 handle
  refine ⟨outcome, (e.step (.expiring handle, s)).2, Prod.ext ?_ rfl⟩
  rw [step_ask rfl rfl]
  exact hfinished

/-- A step that makes no request. -/
theorem step_rest (hasks : e.asks s.now stage = none) : e.step (stage, s) = e.rest s stage := by
  cases stage with
  | submitting => simp [asks] at hasks
  | waiting handle polls => rfl
  | asking handle polls =>
    have htime : e.deadlineAt ≤ s.now := by simpa [asks] using hasks
    simp only [step, rest, if_pos htime]
  | expiring handle => simp [asks] at hasks
  | reading result =>
    by_cases htruthy : result.link.truthy
    · have hlink : result.newLink? = none := by simpa [asks, htruthy] using hasks
      simp only [step, rest, if_pos htruthy, hlink]
    · simp only [step, rest, if_neg htruthy]
  | finished outcome => rfl

end Execution

/-! ### Courses -/

variable [Zero τ] [Add τ] [Sub τ] [LT τ] [LE τ] [DecidableLT τ] [DecidableLE τ] [Timeline τ]

/-- **The course of an execution.** From the session `start` it came to a stage and a session, and
made the listed exchanges, in this order. -/
inductive Course (e : Execution τ) (start : Session τ) :
    List (Exchange τ) → Stage → Session τ → Prop
  | begin : Course e start [] .submitting start
  | ask {xs : List (Exchange τ)} {stage : Stage} {s : Session τ} {limit : τ} {errand : Errand}
      {x : Exchange τ} {script : Script τ} (prior : Course e start xs stage s)
      (asks : e.asks s.now stage = some (limit, errand))
      (made : s.exchange e.connection limit errand = (x, script)) :
      Course e start (xs ++ [x]) (e.react x stage).1
        ((s.after x script).noteAll e.job.correlation (e.react x stage).2)
  | rest {xs : List (Exchange τ)} {stage : Stage} {s : Session τ}
      (prior : Course e start xs stage s) (asks : e.asks s.now stage = none) :
      Course e start xs (e.rest s stage).1 (e.rest s stage).2

namespace Execution

omit [LE τ] [DecidableLE τ] [Timeline τ] in
theorem rest_exchanges (e : Execution τ) (s : Session τ) (stage : Stage) :
    (e.rest s stage).2.exchanges = s.exchanges := by
  cases stage with
  | waiting handle polls =>
    simp only [rest]
    split
    · cases e.job.interval <;> simp
    · rfl
  | reading result =>
    simp only [rest]
    split <;> rfl
  | _ => rfl

omit [LE τ] [DecidableLE τ] [Timeline τ] in
theorem rest_script (e : Execution τ) (s : Session τ) (stage : Stage) :
    (e.rest s stage).2.script = s.script := by
  cases stage with
  | waiting handle polls =>
    simp only [rest]
    split
    · cases e.job.interval <;> simp
    · rfl
  | reading result =>
    simp only [rest]
    split <;> rfl
  | _ => rfl

@[simp] theorem step_finished (e : Execution τ) (outcome : Except Stop Result) (s : Session τ) :
    e.step (.finished outcome, s) = (.finished outcome, s) := rfl

theorem run_finished (e : Execution τ) (outcome : Except Stop Result) (s : Session τ)
    (steps : Nat) : e.run steps (.finished outcome, s) = (.finished outcome, s) := by
  cases steps <;> rfl

/-- The first of several steps. -/
theorem run_succ (e : Execution τ) (steps : Nat) (state : Stage × Session τ) :
    e.run (steps + 1) state = e.run steps (e.step state) := by
  obtain ⟨stage, s⟩ := state
  cases stage with
  | finished outcome => rw [step_finished, run_finished, run_finished]
  | _ => rfl

/-- The last of several steps. -/
theorem run_succ_last (e : Execution τ) (steps : Nat) (state : Stage × Session τ) :
    e.run (steps + 1) state = e.step (e.run steps state) := by
  induction steps generalizing state with
  | zero => rw [run_succ, run, run]
  | succ steps ih => rw [run_succ, ih, ← run_succ]

/-- More steps than it took to come to an end change nothing. -/
theorem run_of_le {e : Execution τ} {steps more : Nat} {state : Stage × Session τ}
    {outcome : Except Stop Result} (hle : steps ≤ more)
    (h : (e.run steps state).1 = .finished outcome) : e.run more state = e.run steps state := by
  induction hle with
  | refl => rfl
  | step _ ih =>
    have hstate : e.run steps state = (.finished outcome, (e.run steps state).2) := by rw [← h]
    rw [run_succ_last, ih, hstate, step_finished]

end Execution

namespace Course

variable {e : Execution τ} {start s : Session τ} {xs : List (Exchange τ)} {stage : Stage}

/-- The exchanges of a course are added to those made before. -/
theorem exchanges_eq (h : Course e start xs stage s) : s.exchanges = start.exchanges ++ xs := by
  induction h with
  | begin => simp
  | ask _ _ _ ih => simp [Session.after, ih]
  | rest _ _ ih => rw [Execution.rest_exchanges, ih]

/-- The request of the stage that a course came to before an exchange made that exchange. -/
theorem split {before after : List (Exchange τ)} {x : Exchange τ}
    (h : Course e start (before ++ x :: after) stage s) :
    ∃ stage' s' limit script, Course e start before stage' s' ∧
      e.asks s'.now stage' = some (limit, x.errand) ∧
      s'.exchange e.connection limit x.errand = (x, script) := by
  generalize hxs : before ++ x :: after = xs at h
  induction h generalizing after with
  | begin => simp at hxs
  | @ask xs stage s limit errand y script prior asks made ih =>
    rcases List.eq_nil_or_concat after with rfl | ⟨others, last, rfl⟩
    · obtain ⟨rfl, hlast⟩ := List.append_inj' hxs rfl
      obtain rfl : x = y := List.singleton_inj.mp hlast
      obtain rfl := Session.errand_of_exchange made
      exact ⟨stage, s, limit, script, prior, asks, made⟩
    · rw [List.concat_eq_append, ← List.cons_append, ← List.append_assoc] at hxs
      exact ih (List.append_inj' hxs rfl).1
  | rest _ _ ih => exact ih hxs

/-- Each exchange of a course was made by the request of a stage before it. -/
theorem made (h : Course e start xs stage s) {x : Exchange τ} (hx : x ∈ xs) :
    ∃ before stage' s' limit script, before ++ [x] <+: xs ∧ Course e start before stage' s' ∧
      e.asks s'.now stage' = some (limit, x.errand) ∧
      s'.exchange e.connection limit x.errand = (x, script) := by
  obtain ⟨before, after, rfl⟩ := List.append_of_mem hx
  obtain ⟨stage', s', limit, script, hmade⟩ := h.split
  exact ⟨before, stage', s', limit, script, ⟨after, by simp⟩, hmade⟩

/-- Nothing is cancelled before the end. -/
theorem uncancelled (h : Course e start xs stage s) (hopen : ∀ outcome, stage ≠ .finished outcome) :
    ∀ x ∈ xs, ¬ x.Cancels := by
  induction h with
  | begin => simp
  | @ask xs stage s limit errand x script prior asks made ih =>
    have hprior : ∀ outcome, stage ≠ .finished outcome := by
      rintro outcome rfl
      cases asks
    simp only [List.forall_mem_append, List.forall_mem_singleton]
    refine ⟨ih hprior, ?_⟩
    rintro ⟨id, herrand⟩
    rw [Session.errand_of_exchange made] at herrand
    subst herrand
    obtain ⟨-, handle, rfl⟩ := Execution.asks_cancel asks
    obtain ⟨outcome, hfinished⟩ := e.react_cancel_finished x handle
    exact hopen outcome hfinished
  | @rest xs stage s prior asks ih =>
    refine ih ?_
    rintro outcome rfl
    exact hopen outcome rfl

theorem step (h : Course e start xs stage s) :
    ∃ ys, Course e start (xs ++ ys) (e.step (stage, s)).1 (e.step (stage, s)).2 := by
  cases hasks : e.asks s.now stage with
  | none =>
    refine ⟨[], ?_⟩
    rw [Execution.step_rest hasks, List.append_nil]
    exact .rest h hasks
  | some asked =>
    obtain ⟨limit, errand⟩ := asked
    refine ⟨[(s.exchange e.connection limit errand).1], ?_⟩
    rw [Execution.step_ask hasks rfl]
    exact .ask h hasks rfl

/-- More steps prolong a course. -/
theorem run (h : Course e start xs stage s) (steps : Nat) :
    ∃ ys, Course e start (xs ++ ys) (e.run steps (stage, s)).1 (e.run steps (stage, s)).2 := by
  induction steps generalizing xs stage s with
  | zero =>
    refine ⟨[], ?_⟩
    rw [List.append_nil]
    exact h
  | succ steps ih =>
    obtain ⟨ys, hstep⟩ := h.step
    obtain ⟨zs, hrun⟩ := ih hstep
    refine ⟨ys ++ zs, ?_⟩
    rw [Execution.run_succ, ← List.append_assoc]
    exact hrun

end Course

/-- An outcome other than that of an unfinished execution is told at the end only. -/
theorem Stage.eq_finished {stage : Stage} {outcome : Except Stop Result}
    (h : stage.outcome = outcome) (hover : outcome ≠ .error .unfinished) :
    stage = .finished outcome := by
  cases stage with
  | finished found => rw [← h, Stage.outcome]
  | _ => exact absurd h.symm hover

/-! ### Executions by a client -/

namespace Client

/-- The execution of a job that starts now. -/
def execution (client : Client τ) (connection : Connection) (job : Job τ) (s : Session τ) :
    Execution τ :=
  ⟨client, connection, job, s.now + job.deadline⟩

/-- Whether the deadline is spent at once. -/
def Spent (client : Client τ) (job : Job τ) (s : Session τ) : Prop :=
  (client.limitAt (some (s.now + job.deadline)) s.now).1 ≤ 0

variable {client : Client τ} {job : Job τ} {s : Session τ} {patience : Nat}

omit [Zero τ] [Add τ] [Sub τ] [LT τ] [LE τ] [DecidableLT τ] [DecidableLE τ] [Timeline τ] in
/-- A client that is not configured says which of the three parts it has. -/
theorem checkConfigured_eq_error {failure : Failure} (h : client.checkConfigured = .error failure) :
    failure = .notConfigured (normalHost client.host ≠ "") (client.token ≠ "")
      client.warehouseId.truthy := by
  simp only [checkConfigured] at h
  split at h
  · cases h
  · exact (Except.error.inj h).symm

omit [Zero τ] [Add τ] [Sub τ] [LT τ] [LE τ] [DecidableLT τ] [DecidableLE τ] [Timeline τ] in
theorem checkConfigured_eq_ok : client.checkConfigured = .ok () ↔
    normalHost client.host ≠ "" ∧ client.token ≠ "" ∧ client.warehouseId.truthy = true := by
  simp only [checkConfigured]
  split
  · rename_i h
    simpa [and_assoc] using h
  · rename_i h
    simpa [and_assoc] using h

theorem execute_unconfigured {failure : Failure} (h : client.checkConfigured = .error failure) :
    client.execute patience job s = (.error (.failure failure), s) := by
  unfold execute
  rw [h]

theorem execute_unconnected {fault : Fault} (hconf : client.checkConfigured = .ok ())
    (h : client.connect = .error fault) :
    client.execute patience job s = (.error (.fault fault), s) := by
  unfold execute
  rw [hconf, h]

theorem execute_connected {connection : Connection} (hconf : client.checkConfigured = .ok ())
    (h : client.connect = .ok connection) :
    client.execute patience job s =
      (((client.execution connection job s).run patience (.submitting, s)).1.outcome,
        ((client.execution connection job s).run patience (.submitting, s)).2) := by
  unfold execute
  rw [hconf, h]
  rfl

/-- An execution is a course, unless the client is not configured or cannot connect. -/
theorem execute_course (client : Client τ) (job : Job τ) (s : Session τ) (patience : Nat) :
    (∃ failure, client.checkConfigured = .error failure ∧
      client.execute patience job s = (.error (.failure failure), s)) ∨
    (∃ fault, client.checkConfigured = .ok () ∧ client.connect = .error fault ∧
      client.execute patience job s = (.error (.fault fault), s)) ∨
    (∃ connection xs stage ended, client.checkConfigured = .ok () ∧
      client.connect = .ok connection ∧
      Course (client.execution connection job s) s xs stage ended ∧
      client.execute patience job s = (stage.outcome, ended)) := by
  cases hconf : client.checkConfigured with
  | error failure => exact .inl ⟨failure, rfl, execute_unconfigured hconf⟩
  | ok =>
    cases hconn : client.connect with
    | error fault => exact .inr (.inl ⟨fault, rfl, rfl, execute_unconnected hconf hconn⟩)
    | ok connection =>
      obtain ⟨ys, hcourse⟩ := (Course.begin (e := client.execution connection job s)).run patience
      exact .inr (.inr ⟨connection, ys, _, _, rfl, rfl, hcourse, execute_connected hconf hconn⟩)

end Client

end Indicator.Warehouse
