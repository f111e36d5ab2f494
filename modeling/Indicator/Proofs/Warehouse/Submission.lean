import Indicator.Proofs.Json.Whole
import Indicator.Proofs.Warehouse.Replies

/-!
# The submission of a statement

A statement that can be sent is the first that an execution sends, and nothing that is sent after it
has a body. One that cannot be sent is not sent, and nothing else is.

* `Client.submitUrl`: the address that statements are submitted to, if the client can reach it.
* `Client.whole_order`, `Client.checkBody_submit`: a whole statement can be written.
* `Session.Idle`, `Session.Submitted`: nothing was sent, or a submission and requests without a body.
* `Client.execute_submission`, `Client.execute_unreached`: **a statement is submitted first, or
  nothing is sent.**
-/

namespace Indicator.Warehouse

open Json (Document Members)

variable {τ : Type}

/-- From one session to another no request was sent and no time has passed. -/
structure Session.Idle (s ended : Session τ) : Prop where
  made : ∃ xs, ended.exchanges = s.exchanges ++ xs ∧ sent xs = []
  now : ended.now = s.now

/-- From one session to another a submission was sent, and after it only requests without a
body. -/
structure Session.Submitted (order : Order) (url : Web.Url) (s ended : Session τ) : Prop where
  made : ∃ first rest, ended.exchanges = s.exchanges ++ first :: rest ∧
    first.errand = .submit order ∧ first.url = some url ∧ ∀ x ∈ rest, x.errand.body? = none

theorem Session.Idle.of_eq {s ended : Session τ} (hexchanges : ended.exchanges = s.exchanges)
    (hnow : ended.now = s.now) : s.Idle ended :=
  ⟨⟨[], by rw [hexchanges, List.append_nil], rfl⟩, hnow⟩

theorem Session.Idle.congr {s ended later : Session τ} (h : s.Idle ended)
    (hexchanges : later.exchanges = ended.exchanges) (hnow : later.now = ended.now) :
    s.Idle later := by
  obtain ⟨xs, hmade, hsent⟩ := h.made
  exact ⟨⟨xs, hexchanges.trans hmade, hsent⟩, hnow.trans h.now⟩

theorem Session.Submitted.congr {order : Order} {url : Web.Url} {s begun ended later : Session τ}
    (h : begun.Submitted order url ended) (hbegun : begun.exchanges = s.exchanges)
    (hexchanges : later.exchanges = ended.exchanges) : s.Submitted order url later := by
  obtain ⟨first, rest, hmade, hfirst⟩ := h.made
  exact ⟨first, rest, by rw [hexchanges, hmade, hbegun], hfirst⟩

variable [Zero τ] [Add τ] [Sub τ] [LT τ] [LE τ] [DecidableLT τ] [DecidableLE τ] [Timeline τ]

/-- No exchange after the first one has a body. -/
theorem Course.body_of_later {e : Execution τ} {start s : Session τ} {first : Exchange τ}
    {rest : List (Exchange τ)} {stage : Stage} (h : Course e start (first :: rest) stage s) :
    ∀ x ∈ rest, x.errand.body? = none := by
  intro x hx
  obtain ⟨before, after, rfl⟩ := List.append_of_mem hx
  rw [← List.cons_append] at h
  obtain ⟨stage', s', limit, script, hprior, hasks, -⟩ := h.split
  cases herrand : x.errand with
  | submit order =>
    -- An execution that has made an exchange is past its submission.
    rw [herrand] at hasks
    obtain rfl := Execution.asks_submit hasks
    have hbegun : first :: before = [] := hprior.history
    cases hbegun
  | poll id => rfl
  | fetchChunk link => rfl
  | cancel id => rfl

namespace Client

variable {client : Client τ} {job : Job τ} {s : Session τ}

/-- The address that statements are submitted to, if the client can reach it. -/
def submitUrl (client : Client τ) : Except Fault Web.Url := do
  let connection ← client.connect
  let url ← (connection.base.resolve statementsPath).mapError .badUrl
  (url.checkHost).mapError .badUrl
  return url

omit [Zero τ] [Add τ] [Sub τ] [LT τ] [LE τ] [DecidableLT τ] [DecidableLE τ] [Timeline τ] in
theorem whole_order {warehouse wait : String} (hwarehouse : client.warehouseId = .str warehouse)
    (hwait : client.waitTimeout = .str wait) (hname : Text.isWhole warehouse = true)
    (htime : Text.isWhole wait = true) {statement : String} (h : Text.isWhole statement = true) :
    (client.order statement).toDocument.Whole := by
  unfold order Order.toDocument
  rw [hwarehouse, hwait]
  simp only [Document.whole_object, Members.whole_cons]
  exact ⟨by decide, Document.whole_str.mpr h, by decide, Document.whole_str.mpr hname, by decide,
    Document.whole_str.mpr htime, by decide, Document.whole_str.mpr (by decide), by decide,
    Document.whole_str.mpr (by decide), by decide, Document.whole_str.mpr (by decide),
    Members.whole_nil⟩

omit [Zero τ] [Add τ] [Sub τ] [LT τ] [LE τ] [DecidableLT τ] [DecidableLE τ] [Timeline τ] in
theorem checkBody_submit {warehouse wait : String}
    (hwarehouse : client.warehouseId = .str warehouse) (hwait : client.waitTimeout = .str wait)
    (hname : Text.isWhole warehouse = true) (htime : Text.isWhole wait = true) {statement : String}
    (h : Text.isWhole statement = true) :
    (Errand.submit (client.order statement)).checkBody = .ok () := by
  have hwhole := whole_order hwarehouse hwait hname htime h
  have hfinite : (client.order statement).toDocument.isFinite = true := by
    unfold order Order.toDocument
    rw [hwarehouse, hwait]
    rfl
  simp only [Errand.checkBody, Errand.body?, hfinite,
    Text.check_utf8 (Document.isWhole_write _ hwhole)]
  rfl

omit [Zero τ] [Add τ] [Sub τ] [LT τ] [LE τ] [DecidableLT τ] [DecidableLE τ] [Timeline τ] in
/-- A submission that can be written goes to the same address, whatever its statement. -/
theorem submitUrl_eq {statement : String}
    (hbody : (Errand.submit (client.order statement)).checkBody = .ok ()) :
    client.submitUrl = client.submissionTo statement := by
  unfold submitUrl submissionTo Session.address
  simp only [hbody]
  rfl

/-- **A statement that can be sent is sent first**, and nothing after it has a body. -/
theorem execute_submission (hconf : client.checkConfigured = .ok ()) (htime : ¬ client.Spent job s)
    (hbody : (Errand.submit (client.order job.statement)).checkBody = .ok ()) {url : Web.Url}
    (hurl : client.submitUrl = .ok url) (steps : Nat) :
    s.Submitted (client.order job.statement) url (client.execute (steps + 1) job s).2 := by
  rw [submitUrl_eq hbody] at hurl
  obtain ⟨connection, hconn, haddress⟩ := bind_eq_ok.mp hurl
  cases hmade : s.exchange connection ((client.execution connection job s).limit s.now)
      (.submit (client.order job.statement)) with
  | mk x script =>
    have hsent : x.url = some url := by
      rcases Session.exchange_cases hmade with ⟨hlate, -⟩ | ⟨-, fault, hfault, -⟩ |
        ⟨-, found, hfound, rfl, -⟩
      · exact absurd hlate htime
      · rw [haddress] at hfault
        cases hfault
      · rw [haddress] at hfound
        cases hfound
        rfl
    obtain ⟨rest, stage, ended, hcourse, hrun⟩ := execute_first steps hconf hconn hmade
    rw [hrun]
    exact ⟨x, rest, hcourse.exchanges_eq, Session.errand_of_exchange hmade, hsent,
      hcourse.body_of_later⟩

/-- **A statement that cannot be sent is not sent**, and nothing else is. -/
theorem execute_unreached (hconf : client.checkConfigured = .ok ()) (htime : ¬ client.Spent job s)
    (hbody : (Errand.submit (client.order job.statement)).checkBody = .ok ()) {fault : Fault}
    (hfault : client.submitUrl = .error fault) (steps : Nat) :
    (client.execute (steps + 1) job s).1 = .error (.fault fault) ∧
      s.Idle (client.execute (steps + 1) job s).2 := by
  rw [submitUrl_eq hbody, submissionTo] at hfault
  cases hconn : client.connect with
  | error what =>
    rw [hconn] at hfault
    cases hfault
    rw [execute_unconnected hconf hconn]
    exact ⟨rfl, .of_eq rfl rfl⟩
  | ok connection =>
    rw [hconn] at hfault
    have haddress : Session.address connection (.submit (client.order job.statement)) =
        .error fault := hfault
    have hmade : s.exchange connection ((client.execution connection job s).limit s.now)
        (.submit (client.order job.statement)) = _ := Session.exchange_unwritten htime haddress
    have hstop : (client.execution connection job s).submitted
        (s.unsent connection (.submit (client.order job.statement)) (.fault fault)) =
          .error (.fault fault) := rfl
    rw [execute_unsubmitted steps hconf hconn hmade hstop]
    exact ⟨rfl, ⟨_, rfl, rfl⟩, rfl⟩

end Client

end Indicator.Warehouse
