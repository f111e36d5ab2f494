import Indicator.Proofs.Outcome
import Indicator.Proofs.Warehouse.Course

/-!
# Histories of executions

What the exchanges of an execution have come to at each stage, told without the steps that led
there. A history starts with a submission and goes on with questions after the statement, each
under the identifier of the handle before it, as long as the state passes (`Heard`). Then either
the deadline passes (`Late`) and the statement is cancelled, or the pages of the result are fetched
along their links (`Pages`). `Ended` lists the ways in which it can be over.

* `Course.history`: the exchanges of a course are a history of its stage.
-/

namespace Indicator.Warehouse

open Json (Document Members)

variable {τ : Type}

/-! ### What an exchange brought -/

namespace Exchange

/-- The document of an answer, unless it is a refusal or no document. -/
def document? (x : Exchange τ) : Option Document :=
  match x.answer with
  | .response response => if response.status < 400 then response.body.document.toOption else none
  | _ => none

/-- The handle that was received. -/
def handle? (x : Exchange τ) : Option Handle :=
  match x.errand with
  | .submit _ => x.document?.bind fun document => (Handle.read document none).toOption
  | .poll id => x.document?.bind fun document => (Handle.read document (some id)).toOption
  | _ => none

/-- The rows of the chunk that was received, and the link to the next one. -/
def chunk? (x : Exchange τ) : Option (List Document × Document) :=
  match x.errand with
  | .fetchChunk _ => x.document?.bind Stage.chunk?
  | _ => none

end Exchange

/-- The first rows of the result of a statement, and the link to those that follow. -/
def Handle.page? (handle : Handle) : Option (List Document × Document) :=
  match handle.state, handle.result with
  | .succeeded, some result =>
    match Document.member result "data_array" with
    | .null => if (Document.member result "row_count").isZero then some ([], .null) else none
    | .list rows => some (rows, Document.member result "next_chunk_internal_link")
    | _ => none
  | _, _ => none

theorem Handle.succeeded_of_page {handle : Handle} {page : List Document × Document}
    (h : handle.page? = some page) : handle.state = .succeeded := by
  unfold Handle.page? at h
  split at h
  · assumption
  · cases h

/-- A result of which the first rows have come. -/
def Handle.progress (handle : Handle) (polls : Nat) (rows : List Document) (link : Document) :
    Progress :=
  ⟨handle.statementId, columnNames (handle.manifest.getD []), polls, rows, [], link⟩

/-- A result with the rows of one more chunk. -/
def Progress.extend (result : Progress) (link : String) (rows : List Document) (next : Document) :
    Progress :=
  { result with rows := result.rows ++ rows, fetched := result.fetched ++ [link], link := next }

/-- A document is accepted unless the response refuses the request or holds none. -/
theorem Client.accept_eq_ok_iff {phase : Phase} {statement : Option String} {response : Response}
    {document : Document} : accept phase statement response = .ok document ↔
      response.status < 400 ∧ response.body.document = .ok document := by
  unfold accept
  by_cases hstatus : 400 ≤ response.status
  · rw [if_pos hstatus]
    constructor
    · intro h
      dsimp only at h
      cases hmessage : response.message <;> rw [hmessage] at h <;> cases h
    · intro h
      omega
  · rw [if_neg hstatus]
    constructor
    · intro h
      refine ⟨by omega, ?_⟩
      cases hdocument : response.body.document with
      | ok found =>
        rw [hdocument] at h
        rw [← Except.ok.inj h]
      | error refusal =>
        rw [hdocument] at h
        cases refusal <;> cases h
    · intro h
      rw [h.2]

section

variable [Zero τ] [Sub τ] [LT τ] [DecidableLT τ] [Timeline τ]

/-- The document of an exchange does not depend on what it was for. -/
theorem Client.documentOf_eq_ok_iff {client : Client τ} {deadline : Option τ} {phase : Phase}
    {statement : Option String} {x : Exchange τ} {document : Document} :
    client.documentOf deadline phase statement x = .ok document ↔ x.document? = some document := by
  rw [documentOf, bind_eq_ok]
  unfold responseOf Exchange.document?
  cases x.answer with
  | response response =>
    simp only [Except.ok.injEq, exists_eq_left', accept_eq_ok_iff, Option.ite_none_right_eq_some]
    exact and_congr_right fun _ => toOption_eq_some.symm
  | broken reason => simp
  | timedOut => simp
  | fault fault => simp

theorem Client.readHandle_eq_ok_iff {known : Option String} {document : Document}
    {handle : Handle} : readHandle known document = .ok handle ↔
      Handle.read document known = .ok handle := by
  exact mapError_eq_ok

theorem Execution.submitted_eq_ok_iff {e : Execution τ} {x : Exchange τ} {order : Order}
    (herrand : x.errand = .submit order) {handle : Handle} :
    e.submitted x = .ok handle ↔ x.handle? = some handle := by
  simp only [submitted, bind_eq_ok, Client.documentOf_eq_ok_iff, Client.readHandle_eq_ok_iff,
    Exchange.handle?, herrand, Option.bind_eq_some_iff]
  exact exists_congr fun document => and_congr_right fun _ => toOption_eq_some.symm

theorem Execution.polled_eq_ok_iff {e : Execution τ} {x : Exchange τ} {id : String}
    (herrand : x.errand = .poll id) {handle : Handle} :
    e.polled id x = .ok handle ↔ x.handle? = some handle := by
  simp only [polled, bind_eq_ok, Client.documentOf_eq_ok_iff, Client.readHandle_eq_ok_iff,
    Exchange.handle?, herrand, Option.bind_eq_some_iff]
  exact exists_congr fun document => and_congr_right fun _ => toOption_eq_some.symm

end

/-! ### Histories -/

/-- **The state of a statement was heard** as often as it was asked for after its submission. It
was asked for only while it was passing, and under the identifier last received. -/
inductive Heard (order : Order) : List (Exchange τ) → Handle → Nat → Prop
  | submit {x : Exchange τ} {handle : Handle} (errand : x.errand = .submit order)
      (brought : x.handle? = some handle) : Heard order [x] handle 0
  | poll {xs : List (Exchange τ)} {handle next : Handle} {polls : Nat} {x : Exchange τ}
      (prior : Heard order xs handle polls) (passing : handle.state.isTerminal = false)
      (errand : x.errand = .poll handle.statementId) (brought : x.handle? = some next) :
      Heard order (xs ++ [x]) next (polls + 1)

/-- **The pages of a result have come** as far as a progress tells, each under the link that the
page before it announced. -/
inductive Pages (order : Order) : List (Exchange τ) → Progress → Prop
  | first {xs : List (Exchange τ)} {handle : Handle} {polls : Nat} {rows : List Document}
      {link : Document} (heard : Heard order xs handle polls)
      (brought : handle.page? = some (rows, link)) :
      Pages order xs (handle.progress polls rows link)
  | next {xs : List (Exchange τ)} {result : Progress} {link : String} {x : Exchange τ}
      {rows : List Document} {next : Document} (prior : Pages order xs result)
      (truthy : result.link.truthy) (announced : result.newLink? = some link)
      (errand : x.errand = .fetchChunk link) (brought : x.chunk? = some (rows, next)) :
      Pages order (xs ++ [x]) (result.extend link rows next)

section

variable [Zero τ] [Sub τ] [LT τ] [DecidableLT τ] [Timeline τ]

namespace Execution

/-- What the execution submits. -/
def order (e : Execution τ) : Order := e.client.order e.job.statement

/-- The document of the chunk that an exchange brought, or why there is none. -/
def fetched (e : Execution τ) (x : Exchange τ) : Except Stop Document :=
  e.client.documentOf (some e.deadlineAt) .fetchChunk none x

/-- **The deadline passed** while the state was still passing: in a pause, or while the state was
being asked for. -/
inductive Late (e : Execution τ) : List (Exchange τ) → Handle → Prop
  | waited {xs : List (Exchange τ)} {handle : Handle} {polls : Nat}
      (heard : Heard e.order xs handle polls) (passing : handle.state.isTerminal = false) :
      Late e xs handle
  | asked {xs : List (Exchange τ)} {handle : Handle} {polls : Nat} {x : Exchange τ} {phase : Phase}
      (heard : Heard e.order xs handle polls) (passing : handle.state.isTerminal = false)
      (errand : x.errand = .poll handle.statementId)
      (late : e.polled handle.statementId x = .error (.failure (.pastDeadline phase))) :
      Late e (xs ++ [x]) handle

/-- **The ways in which an execution is over.** -/
inductive Ended (e : Execution τ) : List (Exchange τ) → Except Stop Result → Prop
  /-- The submission brought no handle. -/
  | unsubmitted {x : Exchange τ} {stop : Stop} (errand : x.errand = .submit e.order)
      (stopped : e.submitted x = .error stop) : Ended e [x] (.error stop)
  /-- The statement failed at once. -/
  | rejected {x : Exchange τ} {handle : Handle} (heard : Heard e.order [x] handle 0)
      (failed : handle.state = .failed) :
      Ended e [x] (.error (.failure
        (.rejected handle.ending (e.client.shown e.job.statement))))
  /-- The interval between two questions is no number. -/
  | unpaused {xs : List (Exchange τ)} {handle : Handle} {polls : Nat} {fault : Fault}
      (heard : Heard e.order xs handle polls) (passing : handle.state.isTerminal = false)
      (interval : e.job.interval = .error fault) : Ended e xs (.error (.fault fault))
  /-- A question after the state brought no handle, though not because of the deadline. -/
  | unheard {xs : List (Exchange τ)} {handle : Handle} {polls : Nat} {x : Exchange τ} {stop : Stop}
      (heard : Heard e.order xs handle polls) (passing : handle.state.isTerminal = false)
      (errand : x.errand = .poll handle.statementId)
      (stopped : e.polled handle.statementId x = .error stop)
      (early : ∀ phase, stop ≠ .failure (.pastDeadline phase)) : Ended e (xs ++ [x]) (.error stop)
  /-- The statement ended without success. -/
  | unsuccessful {xs : List (Exchange τ)} {handle : Handle} {polls : Nat}
      (heard : Heard e.order xs handle polls) (final : handle.state.isTerminal = true)
      (unsuccessful : handle.state ≠ .succeeded) (accepted : polls = 0 → handle.state ≠ .failed) :
      Ended e xs (.error (.failure (.ended handle.ending)))
  /-- The statement succeeded without a result that can be read. -/
  | unpaged {xs : List (Exchange τ)} {handle : Handle} {polls : Nat} {what : Breach}
      (heard : Heard e.order xs handle polls) (succeeded : handle.state = .succeeded)
      (lacking : handle.page? = none) : Ended e xs (.error (.failure (.breach what)))
  /-- The last page announces what is no new link. -/
  | unlinked {xs : List (Exchange τ)} {result : Progress} {what : Breach}
      (pages : Pages e.order xs result) (truthy : result.link.truthy)
      (lacking : result.newLink? = none) : Ended e xs (.error (.failure (.breach what)))
  /-- A chunk did not come. -/
  | unfetched {xs : List (Exchange τ)} {result : Progress} {link : String} {x : Exchange τ}
      {stop : Stop} (pages : Pages e.order xs result) (truthy : result.link.truthy)
      (announced : result.newLink? = some link) (errand : x.errand = .fetchChunk link)
      (stopped : e.fetched x = .error stop) : Ended e (xs ++ [x]) (.error stop)
  /-- A chunk came that has no rows. -/
  | unchunked {xs : List (Exchange τ)} {result : Progress} {link : String} {x : Exchange τ}
      {document : Document} {what : Breach} (pages : Pages e.order xs result)
      (truthy : result.link.truthy) (announced : result.newLink? = some link)
      (errand : x.errand = .fetchChunk link) (brought : x.document? = some document)
      (lacking : Stage.chunk? document = none) :
      Ended e (xs ++ [x]) (.error (.failure (.breach what)))
  /-- All pages came. -/
  | complete {xs : List (Exchange τ)} {result : Progress} (pages : Pages e.order xs result)
      (last : ¬ result.link.truthy) : Ended e xs (.ok result.complete)
  /-- The deadline passed and the cancellation is over. -/
  | expired {xs : List (Exchange τ)} {handle : Handle} {x : Exchange τ} (late : e.Late xs handle)
      (errand : x.errand = .cancel handle.statementId) (quiet : ∀ fault, x.answer ≠ .fault fault) :
      Ended e (xs ++ [x]) (.error (.failure
        (.expired (Timeline.brief e.job.deadline) handle.statementId handle.state)))
  /-- The deadline passed and the cancellation raised a fault. -/
  | uncancelled {xs : List (Exchange τ)} {handle : Handle} {x : Exchange τ} {fault : Fault}
      (late : e.Late xs handle) (errand : x.errand = .cancel handle.statementId)
      (raised : x.answer = .fault fault) : Ended e (xs ++ [x]) (.error (.fault fault))

/-- What the exchanges made so far are at a stage. -/
def History (e : Execution τ) (xs : List (Exchange τ)) : Stage → Prop
  | .submitting => xs = []
  | .waiting handle polls | .asking handle polls =>
    Heard e.order xs handle polls ∧ handle.state.isTerminal = false
  | .expiring handle => e.Late xs handle
  | .reading result => Pages e.order xs result
  | .finished outcome => e.Ended xs outcome

end Execution

/-! ### The first page -/

namespace Stage

omit [Zero τ] [Sub τ] [LT τ] [DecidableLT τ] [Timeline τ]

variable {handle : Handle} {polls : Nat}

theorem ofFinal_of_page {rows : List Document} {link : Document}
    (h : handle.page? = some (rows, link)) :
    ofFinal handle polls = .reading (handle.progress polls rows link) := by
  unfold Handle.page? at h
  split at h
  · rename_i result hstate hresult
    have hfinal : ofFinal handle polls = ofResult handle polls result := by
      rw [ofFinal, hstate, hresult]
    rw [hfinal]
    split at h
    · rename_i hdata
      split at h
      · rename_i hzero
        cases h
        rw [ofResult, hdata]
        exact if_pos hzero
      · cases h
    · rename_i found hdata
      cases h
      rw [ofResult, hdata]
      rfl
    · cases h
  · cases h

theorem ofFinal_of_unpaged (polls : Nat) (hstate : handle.state = .succeeded)
    (h : handle.page? = none) : ∃ what, ofFinal handle polls = .breach what := by
  unfold ofFinal
  rw [hstate]
  cases hresult : handle.result with
  | none => exact ⟨_, rfl⟩
  | some result =>
    simp only [Handle.page?, hstate, hresult] at h
    dsimp only [ofResult]
    split
    · rename_i hdata
      rw [hdata] at h
      have hzero : ¬ (Document.member result "row_count").isZero := by
        intro hzero
        simp [hzero] at h
      rw [if_neg hzero]
      exact ⟨_, rfl⟩
    · rename_i rows hdata
      rw [hdata] at h
      cases h
    · exact ⟨_, rfl⟩

theorem ofFinal_of_unsuccessful (h : handle.state ≠ .succeeded) :
    ofFinal handle polls = .fail (.ended handle.ending) := by
  unfold ofFinal
  split
  · contradiction
  · contradiction
  · rfl

end Stage

/-! ### Histories of courses -/

namespace Execution

variable {e : Execution τ} {xs : List (Exchange τ)} {x : Exchange τ}

theorem history_ofHandle {handle : Handle} {polls : Nat} (heard : Heard e.order xs handle polls)
    (accepted : polls = 0 → handle.state ≠ .failed) : e.History xs (.ofHandle handle polls) := by
  unfold Stage.ofHandle
  by_cases hfinal : handle.state.isTerminal
  · rw [if_pos hfinal]
    by_cases hstate : handle.state = .succeeded
    · cases hpage : handle.page? with
      | none =>
        obtain ⟨what, hbreach⟩ := Stage.ofFinal_of_unpaged polls hstate hpage
        rw [hbreach]
        exact .unpaged heard hstate hpage
      | some page =>
        rw [Stage.ofFinal_of_page hpage]
        exact .first heard hpage
    · rw [Stage.ofFinal_of_unsuccessful hstate]
      exact .unsuccessful heard hfinal hstate accepted
  · rw [if_neg hfinal]
    exact ⟨heard, by simpa using hfinal⟩

theorem history_submitted (herrand : x.errand = .submit e.order) :
    e.History [x] (e.react x .submitting).1 := by
  simp only [react]
  cases hsubmitted : e.submitted x with
  | error stop => exact .unsubmitted herrand hsubmitted
  | ok handle =>
    have heard : Heard e.order [x] handle 0 :=
      .submit herrand ((submitted_eq_ok_iff herrand).mp hsubmitted)
    by_cases hfailed : handle.state = .failed
    · simp only [if_pos hfailed]
      exact .rejected heard hfailed
    · simp only [if_neg hfailed]
      exact history_ofHandle heard fun _ => hfailed

theorem history_polled {handle : Handle} {polls : Nat} (heard : Heard e.order xs handle polls)
    (passing : handle.state.isTerminal = false) (herrand : x.errand = .poll handle.statementId) :
    e.History (xs ++ [x]) (e.react x (.asking handle polls)).1 := by
  simp only [react]
  split
  · rename_i next hpolled
    exact history_ofHandle
      (.poll heard passing herrand ((polled_eq_ok_iff herrand).mp hpolled)) (by simp)
  · rename_i phase hpolled
    exact .asked heard passing herrand hpolled
  · rename_i stop hearly hpolled
    refine .unheard heard passing herrand hpolled ?_
    rintro phase rfl
    exact hearly phase rfl

theorem history_cancelled {handle : Handle} (late : e.Late xs handle)
    (herrand : x.errand = .cancel handle.statementId) :
    e.History (xs ++ [x]) (e.react x (.expiring handle)).1 := by
  simp only [react]
  split
  · rename_i fault hraised
    exact .uncancelled late herrand hraised
  · rename_i hover
    exact .expired late herrand fun fault hraised => hover fault hraised

theorem history_fetched {result : Progress} {link : String} (pages : Pages e.order xs result)
    (htruthy : result.link.truthy) (hlink : result.newLink? = some link)
    (herrand : x.errand = .fetchChunk link) :
    e.History (xs ++ [x]) (e.react x (.reading result)).1 := by
  simp only [react]
  cases hfetched : e.client.documentOf (some e.deadlineAt) .fetchChunk none x with
  | error stop => exact .unfetched pages htruthy hlink herrand hfetched
  | ok document =>
    have hdocument := Client.documentOf_eq_ok_iff.mp hfetched
    simp only [herrand, Errand.link, Stage.afterChunk]
    cases hchunk : Stage.chunk? document with
    | none => exact .unchunked pages htruthy hlink herrand hdocument hchunk
    | some chunk =>
      refine .next pages htruthy hlink herrand ?_
      rw [Exchange.chunk?, herrand]
      dsimp only
      rw [hdocument]
      exact hchunk

variable [Add τ] [LE τ] [DecidableLE τ]

theorem history_rest {s : Session τ} {stage : Stage} (h : e.History xs stage)
    (hasks : e.asks s.now stage = none) : e.History xs (e.rest s stage).1 := by
  cases stage with
  | waiting handle polls =>
    simp only [rest]
    split
    · cases hinterval : e.job.interval with
      | ok interval => exact h
      | error fault => exact .unpaused h.1 h.2 hinterval
    · exact h
  | asking handle polls => exact .waited h.1 h.2
  | reading result =>
    simp only [rest]
    by_cases htruthy : result.link.truthy
    · rw [if_pos htruthy]
      exact .unlinked h htruthy (by simpa [asks, htruthy] using hasks)
    · rw [if_neg htruthy]
      exact .complete h htruthy
  | _ => exact h

end Execution

variable [Add τ] [LE τ] [DecidableLE τ]

/-- **The exchanges of a course are a history of the stage it came to.** -/
theorem Course.history {e : Execution τ} {start s : Session τ} {xs : List (Exchange τ)}
    {stage : Stage} (h : Course e start xs stage s) : e.History xs stage := by
  induction h with
  | begin => rfl
  | @ask xs stage s limit errand x script prior asks made ih =>
    have herrand := Session.errand_of_exchange made
    cases stage with
    | submitting =>
      cases asks
      obtain rfl : xs = [] := ih
      exact Execution.history_submitted herrand
    | asking handle polls =>
      simp only [Execution.asks, Option.ite_none_left_eq_some, Option.some.injEq,
        Prod.mk.injEq] at asks
      obtain ⟨-, -, rfl⟩ := asks
      exact Execution.history_polled ih.1 ih.2 herrand
    | expiring handle =>
      cases asks
      exact Execution.history_cancelled ih herrand
    | reading result =>
      simp only [Execution.asks, Option.ite_none_right_eq_some, Option.map_eq_some_iff,
        Prod.mk.injEq] at asks
      obtain ⟨htruthy, link, hlink, -, rfl⟩ := asks
      exact Execution.history_fetched ih htruthy hlink herrand
    | waiting handle polls => simp [Execution.asks] at asks
    | finished outcome => simp [Execution.asks] at asks
  | rest _ asks ih => exact Execution.history_rest ih asks

end

end Indicator.Warehouse
