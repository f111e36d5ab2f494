import Indicator.Proofs.Warehouse.Exact
import Indicator.Proofs.Warehouse.Order
import Indicator.Proofs.Web.Address

/-!
# The replies of a warehouse

What an execution owes to the replies of a warehouse. A plain reply is a response that leads nowhere
else or a broken connection, and no fault comes of it at an address with a scheme.

* `Script.Leaves`: what is left of a script. `Course.leaves`: so it is along a course.
* `Reply.Plain`: a reply that raises nothing else. `Reply.plain_response`, `Reply.plain_broken`.
* `Course.checkScheme_of_cancel`: a cancellation goes where the submission went.
* `Course.unsent_of_fault`: **no fault comes of a cancellation that was sent**, if the replies are
  plain.
-/

namespace Indicator.Warehouse

variable {τ : Type}

/-! ### Replies that are left -/

theorem nextReply_cases (replies : List (Scheduled τ)) :
    (nextReply replies).1 ∈ replies ∨ (nextReply replies).1 = ⟨none, .notFound⟩ := by
  cases replies with
  | nil => exact .inr rfl
  | cons next rest =>
    cases rest with
    | nil => exact .inl (List.mem_singleton_self next)
    | cons later rest => exact .inl List.mem_cons_self

theorem nextReply_subset (replies : List (Scheduled τ)) : (nextReply replies).2 ⊆ replies := by
  cases replies with
  | nil => exact List.Subset.refl _
  | cons next rest =>
    cases rest with
    | nil => exact List.Subset.refl _
    | cons later rest => exact List.subset_cons_self next _

/-- What a script may leave once some of its replies are given. -/
structure Script.Leaves (script later : Script τ) : Prop where
  replies : later.replies ⊆ script.replies
  cancelReply : later.cancelReply = script.cancelReply

namespace Script

theorem Leaves.refl (script : Script τ) : script.Leaves script := ⟨List.Subset.refl _, rfl⟩

theorem Leaves.trans {script later last : Script τ} (h : script.Leaves later)
    (h' : later.Leaves last) : script.Leaves last :=
  ⟨List.Subset.trans h'.replies h.replies, h'.cancelReply.trans h.cancelReply⟩

theorem leaves_next (script : Script τ) (errand : Errand) (url : Web.Url) :
    script.Leaves (script.next errand url).2 := by
  unfold next
  split
  · exact .refl script
  · exact ⟨nextReply_subset script.replies, rfl⟩

/-- Where a reply comes from. -/
theorem next_cases (script : Script τ) (errand : Errand) (url : Web.Url) :
    (script.next errand url).1 ∈ script.replies ∨
      (script.next errand url).1 = ⟨none, .notFound⟩ ∨
      (isCancel errand url = true ∧ script.cancelReply = some (script.next errand url).1) := by
  unfold next
  split
  · rename_i reply hreply hcancel
    exact .inr (.inr ⟨hcancel, hreply⟩)
  · rcases nextReply_cases script.replies with hmem | hnone
    · exact .inl hmem
    · exact .inr (.inl hnone)

end Script

/-! ### Plain replies -/

/-- **A plain reply** ends every request to an address with a scheme as a response or as a broken
connection. -/
def Reply.Plain (reply : Reply) : Prop :=
  ∀ (url : Web.Url) (fault : Fault), url.checkScheme = .ok () →
    Answer.ofReply url reply ≠ .fault fault

theorem Reply.plain_response {response : Response} (h : response.location = none) :
    (Reply.response response).Plain := by
  intro url fault hscheme
  have hmove : checkMove url response = .ok () := by
    rw [checkMove, h]
  rw [Answer.ofReply, hscheme, hmove]
  intro hfault
  cases hfault

theorem Reply.plain_broken (reason detail : String) : (Reply.broken reason detail).Plain := by
  intro url fault _ hfault
  cases hfault

/-- A script of plain replies. -/
structure Script.Plain (script : Script τ) : Prop where
  replies : ∀ scheduled ∈ script.replies, scheduled.reply.Plain
  cancelReply : ∀ scheduled, script.cancelReply = some scheduled → scheduled.reply.Plain

theorem Script.Plain.next {script : Script τ} (h : script.Plain) (errand : Errand) (url : Web.Url) :
    (script.next errand url).1.reply.Plain := by
  rcases script.next_cases errand url with hmem | hnone | ⟨-, hcancel⟩
  · exact h.replies _ hmem
  · rw [hnone]
    exact Reply.plain_response rfl
  · exact h.cancelReply _ hcancel

/-- A script stays plain while its replies are given. -/
theorem Script.Plain.of_later {script later : Script τ} (h : script.Plain)
    (hlater : script.Leaves later) : later.Plain where
  replies scheduled hmem := h.replies scheduled (hlater.replies hmem)
  cancelReply scheduled hcancel := h.cancelReply scheduled (hlater.cancelReply ▸ hcancel)

theorem pendingSession_plain : pendingSession.script.Plain := by
  refine ⟨fun scheduled hmem => ?_, fun scheduled hcancel => ?_⟩
  · simp only [pendingSession, List.mem_cons, List.not_mem_nil, or_false] at hmem
    rcases hmem with rfl | rfl
    · exact Reply.plain_response rfl
    · exact Reply.plain_response rfl
  · cases hcancel

variable [Zero τ] [Add τ] [LT τ] [LE τ] [DecidableLT τ] [DecidableLE τ]

namespace Session

variable {s : Session τ} {connection : Connection} {limit : τ} {errand : Errand} {x : Exchange τ}
  {script : Script τ}

theorem leaves_of_exchange (h : s.exchange connection limit errand = (x, script)) :
    s.script.Leaves script := by
  rcases exchange_cases h with ⟨-, -, rfl⟩ | ⟨-, _, -, -, rfl⟩ | ⟨-, url, -, -, rfl⟩
  · exact .refl s.script
  · exact .refl s.script
  · exact s.script.leaves_next errand url

/-- An answer that came from an address shows that the address has a scheme. -/
theorem checkScheme_of_response {response : Response}
    (h : s.exchange connection limit errand = (x, script))
    (hanswer : x.answer = .response response) :
    ∃ url, connection.base.resolve errand.link = .ok url ∧ url.checkScheme = .ok () := by
  have hsent := sent_of_response h hanswer
  obtain ⟨url, hurl⟩ := Option.isSome_iff_exists.mp hsent
  refine ⟨url, address_of_sent h hurl, ?_⟩
  rcases exchange_cases h with ⟨-, rfl, -⟩ | ⟨-, fault, -, rfl, -⟩ | ⟨-, found, -, rfl, -⟩
  · cases hurl
  · cases hurl
  · obtain rfl : found = url := by simpa using hurl
    dsimp only at hanswer
    split at hanswer
    · cases hreply : (s.script.next errand found).1.reply with
      | response told =>
        rw [hreply, Answer.ofReply] at hanswer
        cases hscheme : found.checkScheme with
        | ok => rfl
        | error what =>
          rw [hscheme] at hanswer
          cases hanswer
      | broken reason detail =>
        rw [hreply] at hanswer
        cases hanswer
      | fault fault =>
        rw [hreply] at hanswer
        cases hanswer
    · cases hanswer

theorem answer_of_plain {url : Web.Url} {fault : Fault}
    (h : s.exchange connection limit errand = (x, script)) (hplain : s.script.Plain)
    (hurl : x.url = some url) (hscheme : url.checkScheme = .ok ()) : x.answer ≠ .fault fault := by
  rcases exchange_cases h with ⟨-, rfl, -⟩ | ⟨-, fault, -, rfl, -⟩ | ⟨-, found, -, rfl, -⟩
  · cases hurl
  · cases hurl
  · obtain rfl : found = url := by simpa using hurl
    dsimp only
    split
    · exact hplain.next errand found found fault hscheme
    · intro hfault
      cases hfault

end Session

variable [Sub τ] [Timeline τ]

/-! ### Cancellations -/

omit [Zero τ] [Add τ] [LT τ] [LE τ] [DecidableLT τ] [DecidableLE τ] [Sub τ] [Timeline τ] in
theorem Heard.submitted {order : Order} {xs : List (Exchange τ)} {handle : Handle} {polls : Nat}
    (h : Heard order xs handle polls) :
    ∃ x ∈ xs, x.errand = .submit order ∧ ∃ response, x.answer = .response response := by
  induction h with
  | @submit x handle errand brought =>
    exact ⟨x, List.mem_singleton_self x, errand, Exchange.response_of_handle brought⟩
  | poll _ _ _ _ ih =>
    obtain ⟨x, hx, hsubmit⟩ := ih
    exact ⟨x, List.mem_append_left _ hx, hsubmit⟩

omit [Zero τ] [Add τ] [LT τ] [LE τ] [DecidableLT τ] [DecidableLE τ] [Sub τ] [Timeline τ] in
theorem Pages.submitted {order : Order} {xs : List (Exchange τ)} {result : Progress}
    (h : Pages order xs result) :
    ∃ x ∈ xs, x.errand = .submit order ∧ ∃ response, x.answer = .response response := by
  induction h with
  | first heard _ => exact heard.submitted
  | next _ _ _ _ _ ih =>
    obtain ⟨x, hx, hsubmit⟩ := ih
    exact ⟨x, List.mem_append_left _ hx, hsubmit⟩

namespace Execution

variable {e : Execution τ}

omit [Add τ] [LE τ] [DecidableLE τ] in
theorem Late.submitted {xs : List (Exchange τ)} {handle : Handle} (late : e.Late xs handle) :
    ∃ x ∈ xs, x.errand = .submit e.order ∧ ∃ response, x.answer = .response response := by
  cases late with
  | waited heard _ => exact heard.submitted
  | asked heard _ _ _ =>
    obtain ⟨x, hx, hsubmit⟩ := heard.submitted
    exact ⟨x, List.mem_append_left _ hx, hsubmit⟩

end Execution

namespace Course

variable {e : Execution τ} {start s : Session τ} {xs : List (Exchange τ)} {stage : Stage}

theorem leaves (h : Course e start xs stage s) : start.script.Leaves s.script := by
  induction h with
  | begin => exact .refl start.script
  | ask _ _ made ih => exact ih.trans (Session.leaves_of_exchange made)
  | rest _ _ ih =>
    rw [Execution.rest_script]
    exact ih

theorem plain (h : Course e start xs stage s) (hplain : start.script.Plain) : s.script.Plain :=
  hplain.of_later h.leaves

/-- The cancellation goes to the base that the submission went to, so that its address has a scheme
if that of the submission has one. -/
theorem checkScheme_of_cancel {host : String}
    (hbase : Web.Url.parseBase host = .ok e.connection.base)
    {handle : Handle} (h : Course e start xs (.expiring handle) s) {id : String} {url : Web.Url}
    (hurl : e.connection.base.resolve (Errand.cancel id).link = .ok url) :
    url.checkScheme = .ok () := by
  obtain ⟨x, hx, hsubmit, response, hresponse⟩ := Execution.Late.submitted h.history
  obtain ⟨_, _, _, _, _, -, -, -, hmade⟩ := h.made hx
  obtain ⟨first, hfirst, hscheme⟩ := Session.checkScheme_of_response hmade hresponse
  rw [hsubmit] at hfirst
  have hlink : (Errand.submit e.order).link.toList.head? = some '/' := by
    simp [Errand.link, statementsPath]
  have hother : (Errand.cancel id).link.toList.head? = some '/' := by
    simp [Errand.link, statementsPath]
  exact Web.Url.checkScheme_of_local hbase hlink hother hfirst hurl hscheme

/-- **No fault comes of a cancellation that was sent**, if the replies are plain. -/
theorem unsent_of_fault {host : String} (hbase : Web.Url.parseBase host = .ok e.connection.base)
    (hplain : start.script.Plain) (h : Course e start xs stage s) {x : Exchange τ} (hx : x ∈ xs)
    (hcancels : x.Cancels) {fault : Fault} (hfault : x.answer = .fault fault) : x.url = none := by
  obtain ⟨id, herrand⟩ := hcancels
  obtain ⟨before, stage', s', limit, script, -, hprior, hasks, hmade⟩ := h.made hx
  rw [herrand] at hasks hmade
  obtain ⟨-, handle, rfl⟩ := Execution.asks_cancel hasks
  cases hurl : x.url with
  | none => rfl
  | some url =>
    have hscheme := checkScheme_of_cancel hbase hprior (Session.address_of_sent hmade hurl)
    exact absurd hfault (Session.answer_of_plain hmade (hprior.plain hplain) hurl hscheme)

/-- The first exchange of a course is the submission. -/
theorem first (h : Course e start xs stage s) :
    (xs = [] ∧ stage = .submitting ∧ s = start) ∨
      ∃ x rest script, xs = x :: rest ∧
        start.exchange e.connection (e.limit start.now) (.submit e.order) = (x, script) := by
  induction h with
  | begin => exact .inl ⟨rfl, rfl, rfl⟩
  | @ask xs stage s limit errand x script prior asks made ih =>
    right
    rcases ih with ⟨rfl, rfl, rfl⟩ | ⟨y, rest, script', rfl, hfirst⟩
    · cases asks
      exact ⟨x, [], script, rfl, made⟩
    · exact ⟨y, rest ++ [x], script', rfl, hfirst⟩
  | rest prior asks ih =>
    rcases ih with ⟨-, rfl, -⟩ | hfirst
    · cases asks
    · exact .inr hfirst

end Course

/-! ### Executions -/

namespace Client

variable {client : Client τ} {connection : Connection} {job : Job τ} {s : Session τ}
  {patience : Nat}

omit [Zero τ] [Add τ] [LT τ] [LE τ] [DecidableLT τ] [DecidableLE τ] [Sub τ] [Timeline τ] in
theorem base_of_connect (h : client.connect = .ok connection) :
    Web.Url.parseBase (normalHost client.host) = .ok connection.base := by
  obtain ⟨base, hbase, h⟩ := bind_eq_ok.mp h
  obtain ⟨authorization, -, h⟩ := bind_eq_ok.mp h
  cases h
  exact mapError_eq_ok.mp hbase

/-- The address that a statement is submitted to, if it can be submitted. -/
def submissionTo (client : Client τ) (statement : String) : Except Fault Web.Url :=
  client.connect >>= fun connection =>
    Session.address connection (.submit (client.order statement))

/-- The first step makes the submission, and the others go on from there. -/
theorem execute_first {x : Exchange τ} {script : Script τ} (steps : Nat)
    (hconf : client.checkConfigured = .ok ()) (hconn : client.connect = .ok connection)
    (h : s.exchange connection ((client.execution connection job s).limit s.now)
      (.submit (client.order job.statement)) = (x, script)) :
    ∃ rest stage ended, Course (client.execution connection job s) s (x :: rest) stage ended ∧
      client.execute (steps + 1) job s = (stage.outcome, ended) := by
  have hbegun : Course (client.execution connection job s) s ([] ++ [x])
      ((client.execution connection job s).react x .submitting).1
      ((s.after x script).noteAll job.correlation
        ((client.execution connection job s).react x .submitting).2) := .ask .begin rfl h
  obtain ⟨rest, hcourse⟩ := hbegun.run steps
  refine ⟨rest, _, _, hcourse, ?_⟩
  rw [execute_connected hconf hconn, Execution.run_succ, Execution.submit_of_exchange h]
  rfl

/-- An execution whose submission brings no handle makes no other request. -/
theorem execute_unsubmitted {x : Exchange τ} {script : Script τ} {stop : Stop} (steps : Nat)
    (hconf : client.checkConfigured = .ok ()) (hconn : client.connect = .ok connection)
    (h : s.exchange connection ((client.execution connection job s).limit s.now)
      (.submit (client.order job.statement)) = (x, script))
    (hstop : (client.execution connection job s).submitted x = .error stop) :
    client.execute (steps + 1) job s = (.error stop, s.after x script) := by
  rw [execute_connected hconf hconn]
  have hreact : (client.execution connection job s).react x .submitting =
      (.finished (.error stop), []) := by
    rw [Execution.react, hstop]
  have hstep : (client.execution connection job s).step (.submitting, s) =
      (.finished (.error stop), s.after x script) := by
    rw [Execution.submit_of_exchange h, hreact, Session.noteAll_nil]
  rw [Execution.run_succ, hstep, Execution.run_finished]
  rfl

end Client

end Indicator.Warehouse
