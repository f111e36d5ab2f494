import Indicator.Proofs.Warehouse.Replies
import Indicator.Proofs.Web.Ending

/-!
# Cancellations

A cancellation is the last thing that an execution does. What comes of it shows in the clock and in
one record, and in nothing else unless it raises a fault.

* `Session.reserving`: the same session with another reply to cancellations.
* `Execution.step_reserving`, `Execution.run_reserving`: until it is cancelled a statement is
  executed in the same way for every such reply.
* `Twins`: executions that differ in the end of their cancellation only.
* `Client.Apart`: statements are not submitted where they are cancelled. `Client.apart_of_query`: so
  it is at every host without a query.
* `Client.execute_reserving`: **executions with two such replies are twins**, and they end alike if
  the replies are plain.
* `Client.execute_cancel_told`: a cancellation that raises a fault is told instead of the deadline.
-/

namespace Indicator.Warehouse

variable {τ : Type}

/-! ### The reply to cancellations -/

/-- The same script with this reply to cancellations. -/
def Script.reserving (script : Script τ) (reply : Scheduled τ) : Script τ :=
  { script with cancelReply := some reply }

/-- The same session with this reply to cancellations. -/
def Session.reserving (s : Session τ) (reply : Scheduled τ) : Session τ :=
  { s with script := s.script.reserving reply }

theorem isCancel_of_last {errand : Errand} {url : Web.Url} {c : Char}
    (h : url.plainPath.toList.getLast? = some c) (hc : c ≠ 'l') : isCancel errand url = false := by
  rw [isCancel, Bool.and_eq_false_iff]
  refine .inr ?_
  rw [← Bool.not_eq_true, String.endsWith_eq_endsWith_toSlice, String.Slice.endsWith_string_iff]
  rintro ⟨front, hfront⟩
  rw [String.copy_toSlice] at hfront
  rw [← hfront, List.getLast?_append] at h
  exact hc (Option.some.inj h).symm

theorem Script.next_reserving {script : Script τ} {errand : Errand} {url : Web.Url}
    (h : isCancel errand url = false) (reply : Scheduled τ) :
    (script.reserving reply).next errand url =
      ((nextReply script.replies).1,
        { script with replies := (nextReply script.replies).2 }.reserving reply) := by
  simp only [next, reserving, h]

/-! ### Where statements are submitted -/

namespace Client

variable {client : Client τ}

/-- A client does not submit a statement where statements are cancelled. -/
def Apart (client : Client τ) (job : Job τ) : Prop :=
  ∀ connection url, client.connect = .ok connection →
    Session.address connection (.submit (client.order job.statement)) = .ok url →
    isCancel (.submit (client.order job.statement)) url = false

/-- The link at which statements are submitted. -/
def statementsLink : Web.Url := ⟨"", "", "", none, statementsPath, none, none⟩

/-- **At a host without a query** statements are submitted apart from where they are cancelled. -/
theorem apart_of_query (h : ∀ base, Web.Url.parseBase (normalHost client.host) = .ok base →
    base.query = none) (job : Job τ) : client.Apart job := by
  intro connection url hconn haddress
  have hbase := base_of_connect hconn
  obtain ⟨found, hresolve, haddress⟩ := bind_eq_ok.mp haddress
  obtain ⟨-, -, haddress⟩ := bind_eq_ok.mp haddress
  obtain ⟨-, -, haddress⟩ := bind_eq_ok.mp haddress
  cases haddress
  have hparse : Web.Url.parse statementsPath.toList = .ok statementsLink :=
    toOption_eq_some.mp (by decide +kernel)
  have htarget : statementsLink.target.toList.dropWhile (· = '/') =
      "api/2.0/sql".toList ++ '/' :: "statements".toList := by decide +kernel
  have hmark : '?' ∉ "api/2.0/sql".toList ++ '/' :: "statements".toList := by decide +kernel
  have hname : Web.Url.IsName "statements".toList := by decide +kernel
  obtain ⟨kept, hpath⟩ := Web.Url.path_of_resolve hbase (h _ hbase) hparse rfl htarget hmark hname
    (mapError_eq_ok.mp hresolve)
  have hlast : url.path.toList = (kept ++ "statement".toList) ++ ['s'] := by simpa using hpath
  have hshown := Web.Url.getLast?_plainPath hlast (by decide) 115 (by decide +kernel) (by decide)
  exact isCancel_of_last hshown (by decide)

end Client

/-! ### Sessions without a cancellation -/

/-- A session goes on without a cancellation. -/
def Session.Continues (s s' : Session τ) : Prop :=
  ∃ xs, s'.exchanges = s.exchanges ++ xs ∧ ∀ x ∈ xs, ¬ x.Cancels

theorem Session.Continues.refl (s : Session τ) : s.Continues s := ⟨[], by simp, by simp⟩

theorem Session.Continues.trans {s s' s'' : Session τ} (h : s.Continues s')
    (h' : s'.Continues s'') : s.Continues s'' := by
  obtain ⟨xs, hxs, hopen⟩ := h
  obtain ⟨ys, hys, hmore⟩ := h'
  refine ⟨xs ++ ys, by rw [hys, hxs, List.append_assoc], ?_⟩
  simp only [List.forall_mem_append]
  exact ⟨hopen, hmore⟩

section

variable [Timeline τ]

/-! ### The end of a cancellation -/

/-- The outcome of an execution whose cancellation ended so. -/
def afterCancel (job : Job τ) (handle : Handle) : Answer → Except Stop Result
  | .fault fault => .error (.fault fault)
  | _ => .error (.failure
      (.expired (Timeline.brief job.deadline) handle.statementId handle.state))

/-- **A cancellation that raises no fault leaves the deadline to be told.** -/
theorem timedOut_afterCancel {job : Job τ} {handle : Handle} {answer : Answer}
    (h : ∀ fault, answer ≠ .fault fault) : TimedOut (afterCancel job handle answer) := by
  cases answer with
  | fault fault => exact absurd rfl (h fault)
  | _ => exact ⟨_, rfl, rfl⟩

theorem afterCancel_eq {job : Job τ} {handle : Handle} {answer answer' : Answer}
    (h : ∀ fault, answer ≠ .fault fault) (h' : ∀ fault, answer' ≠ .fault fault) :
    afterCancel job handle answer = afterCancel job handle answer' := by
  cases answer with
  | fault fault => exact absurd rfl (h fault)
  | _ =>
    cases answer' with
    | fault fault => exact absurd rfl (h' fault)
    | _ => rfl

theorem length_cancelEvents_le (statementId : String) (answer : Answer) :
    (cancelEvents statementId answer).length ≤ 1 := by
  cases answer with
  | response response =>
    simp only [cancelEvents]
    split <;> exact le_rfl
  | broken reason => exact le_rfl
  | timedOut => exact le_rfl
  | fault fault => exact Nat.zero_le _

/-- **An execution that a cancellation closes.** The reply set apart is what answers it, wherever
statements are cancelled. -/
structure ClosedBy (job : Job τ) (handle : Handle) (reply : Scheduled τ)
    (before : List (Exchange τ)) (log : List Record) (x : Exchange τ)
    (run : Except Stop Result × Session τ) : Prop where
  errand : x.errand = .cancel handle.statementId
  made : run.2.exchanges = before ++ [x]
  recorded : run.2.log = log ++
    (cancelEvents handle.statementId x.answer).map (⟨job.correlation, ·⟩)
  /-- At most one record is new. -/
  brief : (cancelEvents handle.statementId x.answer).length ≤ 1
  answered : ∀ url, x.url = some url → isCancel x.errand url = true →
    url.checkScheme = .ok () ∧ (x.answer = .ofReply url reply.reply ∨ x.answer = .timedOut)
  ended : run.1 = afterCancel job handle x.answer

theorem ClosedBy.quiet {job : Job τ} {handle : Handle} {reply : Scheduled τ}
    {before : List (Exchange τ)} {log : List Record} {x : Exchange τ}
    {run : Except Stop Result × Session τ} (h : ClosedBy job handle reply before log x run)
    (hplain : reply.reply.Plain) {url : Web.Url} (hurl : x.url = some url)
    (hcancel : isCancel x.errand url = true) (fault : Fault) : x.answer ≠ .fault fault := by
  obtain ⟨hscheme, hanswer | hlate⟩ := h.answered url hurl hcancel
  · rw [hanswer]
    exact hplain url fault hscheme
  · rw [hlate]
    simp

/-! ### Twins -/

/-- **Executions that are twins.** Either they are the same and cancel nothing, or both cancel the
same statement last of all, by the same request, and differ only in what comes of that. -/
inductive Twins (job : Job τ) (a b : Scheduled τ) (earlier : List (Exchange τ)) :
    Except Stop Result × Session τ → Except Stop Result × Session τ → Prop
  | same {outcome : Except Stop Result} {s : Session τ} {xs : List (Exchange τ)}
      (made : s.exchanges = earlier ++ xs) (uncancelled : ∀ x ∈ xs, ¬ x.Cancels) :
      Twins job a b earlier (outcome, s.reserving a) (outcome, s.reserving b)
  | cancelled {run run' : Except Stop Result × Session τ} {xs : List (Exchange τ)}
      {x y : Exchange τ} {log : List Record} {handle : Handle}
      (uncancelled : ∀ x ∈ xs, ¬ x.Cancels)
      (closed : ClosedBy job handle a (earlier ++ xs) log x run)
      (closed' : ClosedBy job handle b (earlier ++ xs) log y run')
      (request : y.url = x.url ∧ y.authorization = x.authorization ∧ y.startedAt = x.startedAt)
      (decided : y = x ∨ ∃ url, x.url = some url ∧ isCancel x.errand url = true)
      (left : run'.2.script.replies = run.2.script.replies) : Twins job a b earlier run run'

namespace Twins

variable {job : Job τ} {a b : Scheduled τ} {earlier : List (Exchange τ)}
  {run run' : Except Stop Result × Session τ}

/-- **Twins end alike** if the replies are plain. -/
theorem outcome_eq (h : Twins job a b earlier run run') (ha : a.reply.Plain) (hb : b.reply.Plain) :
    run'.1 = run.1 := by
  cases h with
  | same => rfl
  | cancelled uncancelled closed closed' request decided left =>
    rw [closed.ended, closed'.ended]
    rcases decided with rfl | ⟨url, hurl, hcancel⟩
    · rfl
    · have hcancel' := hcancel
      rw [closed.errand, ← closed'.errand] at hcancel'
      exact afterCancel_eq (closed'.quiet hb (request.1.trans hurl) hcancel')
        (closed.quiet ha hurl hcancel)

/-- **A cancellation that a plain reply answers leaves the deadline to be told**, unless it has no
address. -/
theorem timedOut (h : Twins job a b earlier run run') (ha : a.reply.Plain)
    {xs : List (Exchange τ)} (hmade : run.2.exchanges = earlier ++ xs) {x : Exchange τ}
    (hx : x ∈ xs) (hcancels : x.Cancels)
    (hcancel : ∀ url, x.url = some url → isCancel x.errand url = true) :
    TimedOut run.1 ∨
      x.url = none ∧ ∃ fault, x.answer = .fault fault ∧ run.1 = .error (.fault fault) := by
  cases h with
  | @same _ s ys made uncancelled =>
    have hsame : earlier ++ xs = earlier ++ ys := hmade.symm.trans made
    rw [List.append_cancel_left hsame] at hx
    exact absurd hcancels (uncancelled x hx)
  | @cancelled _ _ ys z y log handle uncancelled closed closed' request decided left =>
    have hxs : xs = ys ++ [z] := by
      have hboth := closed.made
      rw [hmade, List.append_assoc] at hboth
      exact List.append_cancel_left hboth
    rw [hxs, List.mem_append, List.mem_singleton] at hx
    rcases hx with hx | rfl
    · exact absurd hcancels (uncancelled x hx)
    · rw [closed.ended]
      cases hurl : x.url with
      | some url =>
        exact .inl (timedOut_afterCancel (closed.quiet ha hurl (hcancel url hurl)))
      | none =>
        cases hanswer : x.answer with
        | fault fault => exact .inr ⟨rfl, fault, rfl, rfl⟩
        | _ => exact .inl (timedOut_afterCancel (by simp))

end Twins

end

section

variable [Zero τ] [Add τ] [LT τ] [LE τ] [DecidableLT τ] [DecidableLE τ]

namespace Session

variable {s : Session τ} {connection : Connection} {limit : τ} {errand : Errand}

omit [LE τ] [DecidableLE τ] in
theorem pause_reserving (s : Session τ) (duration : τ) (reply : Scheduled τ) :
    (s.reserving reply).pause duration = (s.pause duration).reserving reply := by
  unfold pause
  split <;> rfl

/-- **A request that goes elsewhere is the same** for every reply to cancellations. -/
theorem exchange_reserving
    (helsewhere : ∀ url, address connection errand = .ok url → isCancel errand url = false) :
    ∃ (x : Exchange τ) (script : Script τ), ∀ reply,
      (s.reserving reply).exchange connection limit errand = (x, script.reserving reply) := by
  by_cases hlimit : limit ≤ 0
  · exact ⟨s.unsent connection errand .timedOut, s.script, fun reply => exchange_late hlimit⟩
  · cases haddress : address connection errand with
    | error fault =>
      exact ⟨s.unsent connection errand (.fault fault), s.script,
        fun reply => exchange_unwritten hlimit haddress⟩
    | ok url =>
      have hnext : ∀ reply, (s.reserving reply).script.next errand url = _ :=
        Script.next_reserving (helsewhere url haddress)
      refine ⟨⟨errand, some url, connection.credentialFor url, s.now,
        s.now + (timeTaken limit (nextReply s.script.replies).1.latency).2,
        if (timeTaken limit (nextReply s.script.replies).1.latency).1 then
          .ofReply url (nextReply s.script.replies).1.reply else .timedOut⟩,
        { s.script with replies := (nextReply s.script.replies).2 }, fun reply => ?_⟩
      rw [exchange_sent hlimit haddress, hnext]
      rfl

theorem exchange_reserving_twice {a b : Scheduled τ} {x y : Exchange τ} {script script' : Script τ}
    (h : (s.reserving a).exchange connection limit errand = (x, script))
    (h' : (s.reserving b).exchange connection limit errand = (y, script')) :
    (y.errand = x.errand ∧ y.url = x.url ∧ y.authorization = x.authorization ∧
      y.startedAt = x.startedAt) ∧ script'.replies = script.replies ∧
      (y = x ∨ ∃ url, x.url = some url ∧ isCancel errand url = true) := by
  by_cases helsewhere : ∀ url, address connection errand = .ok url → isCancel errand url = false
  · obtain ⟨z, rest, hmade⟩ : ∃ z rest, ∀ reply,
        (s.reserving reply).exchange connection limit errand = (z, Script.reserving rest reply) :=
      exchange_reserving helsewhere
    rw [hmade] at h h'
    cases h
    cases h'
    exact ⟨⟨rfl, rfl, rfl, rfl⟩, rfl, .inl rfl⟩
  · simp only [not_forall, Bool.not_eq_false] at helsewhere
    obtain ⟨url, haddress, hcancel⟩ := helsewhere
    by_cases hlimit : limit ≤ 0
    · rw [exchange_late hlimit] at h h'
      cases h
      cases h'
      exact ⟨⟨rfl, rfl, rfl, rfl⟩, rfl, .inl rfl⟩
    · rw [exchange_sent hlimit haddress] at h h'
      simp only [Script.next, reserving, Script.reserving, hcancel] at h h'
      cases h
      cases h'
      exact ⟨⟨rfl, rfl, rfl, rfl⟩, rfl, .inr ⟨url, rfl, hcancel⟩⟩

theorem answer_of_reserving {reply : Scheduled τ} {x : Exchange τ} {script : Script τ}
    {url : Web.Url} (h : (s.reserving reply).exchange connection limit errand = (x, script))
    (hurl : x.url = some url) (hcancel : isCancel errand url = true) :
    x.answer = .ofReply url reply.reply ∨ x.answer = .timedOut := by
  rcases exchange_cases h with ⟨-, rfl, -⟩ | ⟨-, fault, -, rfl, -⟩ | ⟨-, found, -, rfl, -⟩
  · cases hurl
  · cases hurl
  · obtain rfl : found = url := by simpa using hurl
    have hnext : ((s.reserving reply).script.next errand found).1 = reply := by
      simp only [Script.next, reserving, Script.reserving, hcancel]
    dsimp only
    rw [hnext]
    split
    · exact .inl rfl
    · exact .inr rfl

end Session

variable [Sub τ] [Timeline τ]

/-! ### Executions until their cancellation -/

namespace Execution

variable {e : Execution τ} {s : Session τ} {stage : Stage}

omit [LE τ] [DecidableLE τ] [Timeline τ] in
theorem rest_reserving (e : Execution τ) (s : Session τ) (stage : Stage) (reply : Scheduled τ) :
    e.rest (s.reserving reply) stage =
      ((e.rest s stage).1, (e.rest s stage).2.reserving reply) := by
  cases stage with
  | waiting handle polls =>
    have hnow : (s.reserving reply).now = s.now := rfl
    by_cases htime : 0 < e.deadlineAt - s.now
    · simp only [rest, hnow, if_pos htime, Session.pause_reserving]
      cases e.job.interval <;> rfl
    · simp only [rest, hnow, if_neg htime]
  | reading result =>
    simp only [rest]
    split <;> rfl
  | _ => rfl

/-- The submission does not go where statements are cancelled. -/
def Apart (e : Execution τ) : Prop :=
  ∀ url, Session.address e.connection (.submit e.order) = .ok url →
    isCancel (.submit e.order) url = false

/-- **Until it is cancelled a statement is executed in the same way.** -/
theorem step_reserving (hapart : e.Apart) (hopen : ∀ handle, stage ≠ .expiring handle) :
    ∃ (stage' : Stage) (s' : Session τ), s.Continues s' ∧ ∀ reply,
      e.step (stage, s.reserving reply) = (stage', s'.reserving reply) := by
  cases hasks : e.asks s.now stage with
  | none =>
    refine ⟨(e.rest s stage).1, (e.rest s stage).2, ⟨[], ?_, by simp⟩, fun reply => ?_⟩
    · rw [rest_exchanges, List.append_nil]
    · rw [step_rest (s := s.reserving reply) hasks, rest_reserving]
  | some asked =>
    obtain ⟨limit, errand⟩ := asked
    have helsewhere : ∀ url, Session.address e.connection errand = .ok url →
        isCancel errand url = false := by
      cases stage with
      | submitting =>
        cases hasks
        exact hapart
      | asking handle polls =>
        simp only [asks, Option.ite_none_left_eq_some, Option.some.injEq, Prod.mk.injEq] at hasks
        obtain ⟨-, -, rfl⟩ := hasks
        exact fun _ _ => rfl
      | expiring handle => exact absurd rfl (hopen handle)
      | reading result =>
        simp only [asks, Option.ite_none_right_eq_some, Option.map_eq_some_iff,
          Prod.mk.injEq] at hasks
        obtain ⟨-, link, -, -, rfl⟩ := hasks
        exact fun _ _ => rfl
      | waiting handle polls => cases hasks
      | finished outcome => cases hasks
    obtain ⟨x, script, hmade⟩ : ∃ x script, ∀ reply, (s.reserving reply).exchange e.connection
        limit errand = (x, Script.reserving script reply) :=
      Session.exchange_reserving helsewhere
    refine ⟨(e.react x stage).1, (s.after x script).noteAll e.job.correlation (e.react x stage).2,
      ⟨[x], rfl, ?_⟩, fun reply => ?_⟩
    · rintro y hy ⟨id, herrand⟩
      rw [List.mem_singleton.mp hy] at herrand
      have hx := Session.errand_of_exchange (hmade ⟨none, .notFound⟩)
      rw [hx] at herrand
      rw [herrand] at hasks
      obtain ⟨-, handle, rfl⟩ := asks_cancel hasks
      exact hopen handle rfl
    · rw [step_ask (s := s.reserving reply) hasks (hmade reply)]
      rfl

/-- So are all its steps, up to the cancellation and from there on. -/
theorem run_reserving (hapart : e.Apart) (s : Session τ) (steps : Nat) :
    (∃ (stage : Stage) (s' : Session τ), s.Continues s' ∧ ∀ reply,
      e.run steps (.submitting, s.reserving reply) = (stage, s'.reserving reply)) ∨
    ∃ (before : Nat) (handle : Handle) (s' : Session τ), s.Continues s' ∧ ∀ reply,
      e.run before (.submitting, s.reserving reply) = (.expiring handle, s'.reserving reply) ∧
      e.run steps (.submitting, s.reserving reply) =
        e.step (.expiring handle, s'.reserving reply) := by
  induction steps with
  | zero => exact .inl ⟨.submitting, s, .refl s, fun _ => rfl⟩
  | succ steps ih =>
    rcases ih with ⟨stage, s', hnext, hrun⟩ | ⟨before, handle, s', hnext, hrun⟩
    · by_cases hopen : ∀ handle, stage ≠ .expiring handle
      · obtain ⟨next, s'', hmore, hstep⟩ := step_reserving (s := s') hapart hopen
        refine .inl ⟨next, s'', hnext.trans hmore, fun reply => ?_⟩
        rw [run_succ_last, hrun, hstep]
      · simp only [not_forall, not_not] at hopen
        obtain ⟨handle, rfl⟩ := hopen
        refine .inr ⟨steps, handle, s', hnext, fun reply => ⟨hrun reply, ?_⟩⟩
        rw [run_succ_last, hrun]
    · refine .inr ⟨before, handle, s', hnext, fun reply => ⟨(hrun reply).1, ?_⟩⟩
      obtain ⟨outcome, ended, hstep⟩ := e.step_expiring (s'.reserving reply) handle
      rw [run_succ_last, (hrun reply).2, hstep, step_finished]

end Execution

/-! ### Courses -/

omit [Add τ] [LE τ] [DecidableLE τ] in
theorem Execution.react_expiring (e : Execution τ) (x : Exchange τ) (handle : Handle) :
    e.react x (.expiring handle) = (.finished (afterCancel e.job handle x.answer),
      cancelEvents handle.statementId x.answer) := by
  simp only [react, afterCancel]
  cases x.answer <;> rfl

/-- **The cancellation closes an execution.** -/
theorem Course.closedBy {e : Execution τ} {start s : Session τ} {xs : List (Exchange τ)}
    {handle : Handle} {host : String} {reply : Scheduled τ} {x : Exchange τ} {script : Script τ}
    (h : Course e start xs (.expiring handle) (s.reserving reply))
    (hbase : Web.Url.parseBase host = .ok e.connection.base)
    (hmade : (s.reserving reply).exchange e.connection e.client.httpTimeout
      (.cancel handle.statementId) = (x, script)) :
    ClosedBy e.job handle reply s.exchanges s.log x
      ((e.step (.expiring handle, s.reserving reply)).1.outcome,
        (e.step (.expiring handle, s.reserving reply)).2) := by
  have herrand := Session.errand_of_exchange hmade
  rw [Execution.step_ask rfl hmade, e.react_expiring]
  refine ⟨herrand, rfl, rfl, length_cancelEvents_le _ _, ?_, rfl⟩
  intro url hurl hcancel
  rw [herrand] at hcancel
  exact ⟨h.checkScheme_of_cancel hbase (Session.address_of_sent hmade hurl),
    Session.answer_of_reserving hmade hurl hcancel⟩

theorem Course.twins {e : Execution τ} {start s : Session τ} {xs ys : List (Exchange τ)}
    {handle : Handle} {host : String} {a b : Scheduled τ}
    (hbase : Web.Url.parseBase host = .ok e.connection.base) (hnext : start.Continues s)
    (h : Course e (start.reserving a) xs (.expiring handle) (s.reserving a))
    (h' : Course e (start.reserving b) ys (.expiring handle) (s.reserving b)) :
    Twins e.job a b start.exchanges
      ((e.step (.expiring handle, s.reserving a)).1.outcome,
        (e.step (.expiring handle, s.reserving a)).2)
      ((e.step (.expiring handle, s.reserving b)).1.outcome,
        (e.step (.expiring handle, s.reserving b)).2) := by
  obtain ⟨zs, hmade, huncancelled⟩ := hnext
  obtain ⟨x, script, hx⟩ : ∃ x script, (s.reserving a).exchange e.connection
      e.client.httpTimeout (.cancel handle.statementId) = (x, script) := ⟨_, _, rfl⟩
  obtain ⟨y, script', hy⟩ : ∃ y script', (s.reserving b).exchange e.connection
      e.client.httpTimeout (.cancel handle.statementId) = (y, script') := ⟨_, _, rfl⟩
  obtain ⟨⟨-, hrequest⟩, hleft, hdecided⟩ := Session.exchange_reserving_twice hx hy
  have hclosed := h.closedBy hbase hx
  have hclosed' := h'.closedBy hbase hy
  rw [hmade] at hclosed hclosed'
  refine .cancelled huncancelled hclosed hclosed' hrequest ?_ ?_
  · rw [hclosed.errand]
    exact hdecided
  · rw [Execution.step_ask rfl hx, Execution.step_ask rfl hy]
    exact hleft

/-! ### Executions -/

namespace Client

variable {client : Client τ} {job : Job τ}

theorem twins_reserving (hapart : client.Apart job) (s : Session τ) (patience : Nat)
    (a b : Scheduled τ) :
    Twins job a b s.exchanges (client.execute patience job (s.reserving a))
      (client.execute patience job (s.reserving b)) := by
  cases hconf : client.checkConfigured with
  | error failure =>
    rw [execute_unconfigured hconf, execute_unconfigured hconf]
    exact .same (List.append_nil _).symm (by simp)
  | ok =>
    cases hconn : client.connect with
    | error fault =>
      rw [execute_unconnected hconf hconn, execute_unconnected hconf hconn]
      exact .same (List.append_nil _).symm (by simp)
    | ok connection =>
      obtain ⟨e, hexecution, he⟩ : ∃ e : Execution τ, client.execution connection job s = e ∧
          ∀ reply, client.execution connection job (s.reserving reply) = e := ⟨_, rfl, fun _ => rfl⟩
      have hopen : e.Apart := by
        rw [← hexecution]
        exact fun url haddress => hapart connection url hconn haddress
      have hbase : Web.Url.parseBase (normalHost client.host) = .ok e.connection.base := by
        rw [← hexecution]
        exact base_of_connect hconn
      have hjob : e.job = job := by rw [← hexecution]; rfl
      rw [execute_connected hconf hconn, execute_connected hconf hconn, he, he]
      rcases Execution.run_reserving hopen s patience with ⟨stage, s', ⟨xs, hmade, hnone⟩, hrun⟩ |
        ⟨before, handle, s', hnext, hrun⟩
      · rw [hrun, hrun]
        exact .same hmade hnone
      · have hcourse : ∀ reply, ∃ ys, Course e (s.reserving reply) ys (.expiring handle)
            (s'.reserving reply) := by
          intro reply
          have hbegin : Course e (s.reserving reply) [] .submitting (s.reserving reply) := .begin
          obtain ⟨ys, hys⟩ := hbegin.run before
          rw [(hrun reply).1] at hys
          exact ⟨_, hys⟩
        obtain ⟨_, hfirst⟩ := hcourse a
        obtain ⟨_, hsecond⟩ := hcourse b
        rw [(hrun a).2, (hrun b).2, ← hjob]
        exact Course.twins hbase hnext hfirst hsecond

/-- **The outcome of an execution does not depend on its cancellation.** With any two replies to it
the executions are twins. If the replies are plain they end alike; and if the statement is
cancelled, then with the deadline, unless its cancellation has no address. -/
theorem execute_reserving (hapart : client.Apart job) (s : Session τ) (patience : Nat)
    (a b : Scheduled τ) :
    Twins job a b s.exchanges (client.execute patience job (s.reserving a))
        (client.execute patience job (s.reserving b)) ∧
      (a.reply.Plain → b.reply.Plain → (client.execute patience job (s.reserving b)).1 =
        (client.execute patience job (s.reserving a)).1) ∧
      (a.reply.Plain → ∀ xs x,
        (client.execute patience job (s.reserving a)).2.exchanges = s.exchanges ++ xs → x ∈ xs →
        x.Cancels → (∀ url, x.url = some url → isCancel x.errand url = true) →
        TimedOut (client.execute patience job (s.reserving a)).1 ∨
          x.url = none ∧ ∃ fault, x.answer = .fault fault ∧
            (client.execute patience job (s.reserving a)).1 = .error (.fault fault)) := by
  have htwins := twins_reserving hapart s patience a b
  refine ⟨htwins, fun ha hb => htwins.outcome_eq ha hb, ?_⟩
  intro ha xs x hmade hx hcancels hcancel
  exact htwins.timedOut ha hmade hx hcancels hcancel

end Client

end

/-! ### Cancellations that fail -/

/-- A statement that may take one second and is asked for once in that time. -/
def briefJob : Job Rat := { exactJob with interval := .ok 1, deadline := 1 }

/-- A reply to a cancellation that is refused, after a while. -/
def refusedCancel : Scheduled Rat := ⟨some (1 / 2), .response ⟨500, none, .ofDocument .null⟩⟩

/-- No reply to a cancellation. -/
def brokenCancel : Scheduled Rat := ⟨none, .broken "ReadError" ""⟩

/-- A reply that leads on to what is no address at the same host. -/
def strayCancel : Scheduled Rat := ⟨none, .response ⟨302, some "http:a", .ofDocument .null⟩⟩

/-- A warehouse that never comes to an end with a statement whose id no address can hold. -/
def unaddressedSession : Session Rat :=
  exactSession [exactDocument (.object
    [("statement_id", .str "a\u0001b"), ("status", .object [("state", .str State.pending.name)])])]

namespace Client

theorem exactClient_apart : exactClient.Apart briefJob := by
  refine apart_of_query (fun base hbase => ?_) briefJob
  rw [base_of_connect exactClient_connect, Except.ok.injEq] at hbase
  rw [← hbase]
  rfl

/-- A cancellation that is refused and one that is not answered leave the same to be told. -/
theorem execute_reserving_refused :
    exactClient.Apart briefJob ∧
      (exactClient.execute 12 briefJob (pendingSession.reserving brokenCancel)).1 =
        (exactClient.execute 12 briefJob (pendingSession.reserving refusedCancel)).1 ∧
      ∃ x, (exactClient.execute 12 briefJob
          (pendingSession.reserving refusedCancel)).2.exchanges.getLast? = some x ∧
        x.Cancels ∧ x.url.isSome ∧
        TimedOut (exactClient.execute 12 briefJob (pendingSession.reserving refusedCancel)).1 := by
  obtain ⟨-, halike, htold⟩ := execute_reserving exactClient_apart pendingSession 12 refusedCancel
    brokenCancel
  have hrefused : refusedCancel.reply.Plain := Reply.plain_response rfl
  refine ⟨exactClient_apart, halike hrefused (Reply.plain_broken _ _), ?_⟩
  have hlast : (exactClient.execute 12 briefJob
      (pendingSession.reserving refusedCancel)).2.exchanges.getLast?.map
        (fun x => (decide x.Cancels, x.url.map (isCancel x.errand))) = some (true, some true) := by
    decide +kernel
  obtain ⟨x, hx, hsent⟩ := Option.map_eq_some_iff.mp hlast
  obtain ⟨hcancels, hcancel⟩ := Prod.mk.inj hsent
  obtain ⟨url, hurl, hgoes⟩ := Option.map_eq_some_iff.mp hcancel
  refine ⟨x, hx, of_decide_eq_true hcancels, by rw [hurl]; rfl, ?_⟩
  have hgoes' : ∀ other, x.url = some other → isCancel x.errand other = true := by
    intro other hother
    rw [hurl, Option.some.injEq] at hother
    rw [← hother, hgoes]
  rcases htold hrefused _ x (List.nil_append _).symm (List.mem_of_getLast? hx)
    (of_decide_eq_true hcancels) hgoes' with htimedOut | ⟨hnone, -⟩
  · exact htimedOut
  · rw [hurl] at hnone
    cases hnone

/-- **A cancellation that raises a fault is told instead of the deadline**: one that leads on to no
address, where a plain reply leaves the deadline to be told; and one whose address cannot be
written, so that it is not sent. -/
theorem execute_cancel_told :
    (exactClient.execute 12 briefJob (pendingSession.reserving refusedCancel)).1 =
        .error (.failure (.expired "1" "stmt-1" .pending)) ∧
      (exactClient.execute 12 briefJob (pendingSession.reserving strayCancel)).1 =
        .error (.fault (.badUrl .missingSlash)) ∧
      (exactClient.execute 12 briefJob unaddressedSession).1 =
        .error (.fault (.badUrl (.control '\u0001' 25))) := by
  refine ⟨errorOf?_eq_some.mp ?_, errorOf?_eq_some.mp ?_, errorOf?_eq_some.mp ?_⟩
  all_goals decide +kernel

end Client

end Indicator.Warehouse
