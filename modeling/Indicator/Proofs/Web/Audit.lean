import Indicator.Proofs.Json.Finite
import Indicator.Proofs.Sql.Clauses
import Indicator.Proofs.Warehouse.Discretion
import Indicator.Proofs.Warehouse.Records
import Indicator.Proofs.Web.Admission
import Indicator.Proofs.Web.RequestLimit

/-!
# The audit of a request

Every request for an answer that validates leaves one audit record, which agrees with what the
engine made of it and with what the caller is told.

* `Outgoing.Shows`: the status and the document of a response. `Service.failureDocument`: the
  document that tells of a failure.
* `Service.Concludes`: a request that is served in time, and of which the end can be told.
  `Service.answer_concluded`: it is answered with what served it.
* `Service.outcome?`: what the engine makes of a payload.
* `Service.Agrees`: an audit record and a response that agree with an outcome.
* `Service.audited_record`: **one record is left**, whatever is asked for and whatever comes of it.
* `Service.serveTopic_cases`: the engine is not asked, or what it makes of a payload is served.
* `Service.answer_agrees`: **the record, the response and the outcome agree.**
* `Service.answer_disagrees`: an answer that is nested too deep is recorded, but not given.
-/

namespace Indicator

open Json (Document Members)
open Text (isWhole)
open Warehouse (Client Session Stop)

/-- What stops the engine without being a failure that it knows. -/
def Warehouse.Stop.Unforeseen (stop : Stop) : Prop := ∀ failure, stop ≠ .failure failure

namespace Web

/-! ### Responses -/

/-- A response of a status, with a document. -/
structure Outgoing.Shows (response : Outgoing) (status : Nat) (document : Document) : Prop where
  status : response.status = status
  page : response.page = .document document

theorem Outgoing.Shows.members {response : Outgoing} {status : Nat} {members : Members}
    (h : response.Shows status (.object members)) : response.members = members := by
  rw [Outgoing.members, h.page]

namespace Service

section

variable {τ : Type} (service : Service τ)

/-- The document that tells of a failure. -/
def failureDocument (failure : Failure) : Document :=
  .object [("ok", .bool false), ("version", service.version),
    ("error", .object ([("kind", .str failure.kind.code), ("message", .str failure.message),
      ("errorId", .str service.errorId)] ++
      if failure.details.isEmpty then [] else [("details", .object failure.details)]))]

/-- A response as it leaves the layers around it. -/
def dressed (version : String) (request : Incoming) (response : Outgoing) : Outgoing :=
  let stamped := (response.setHeader "x-mc-version" version).addHeader "cache-control" "no-store"
  match header? request.headers "origin" with
  | none => stamped
  | some origin => Cors.mark service.origins origin stamped

variable {service} {version : String}

theorem shows_failureResponse (hversion : service.version = .str version) (failure : Failure) :
    (service.failureResponse failure).Shows failure.kind.status
      (service.failureDocument failure) := by
  have hfinite : (service.failureDocument failure).isFinite = true := by
    have hdetails := failure.isFinite_details
    unfold failureDocument
    rw [hversion]
    cases failure.details.isEmpty <;> simp [Document.isFinite, Document.membersAreFinite, hdetails]
  refine ⟨rfl, ?_⟩
  rw [← Document.finite_eq_self hfinite]
  rfl

theorem shows_faultResponse (hversion : service.version = .str version) :
    service.faultResponse.Shows 500
      (service.failureDocument (.internal "Unexpected internal error")) := by
  refine ⟨rfl, ?_⟩
  unfold faultResponse failureDocument
  rw [hversion]
  rfl

theorem shows_answer (hversion : service.version = .str version) {answer : Document}
    (h : answer.isFinite = true) :
    (Outgoing.ofDocument 200 (service.answerDocument answer)).Shows 200
      (service.answerDocument answer) := by
  have hfinite : (service.answerDocument answer).isFinite = true := by
    unfold answerDocument
    rw [hversion]
    simp [Document.isFinite, Document.membersAreFinite, h]
  refine ⟨rfl, ?_⟩
  rw [Outgoing.ofDocument, Document.finite_eq_self hfinite]

/-- The layers leave the status and the document as they are. -/
theorem shows_dressed (service : Service τ) (version : String) (request : Incoming)
    {response : Outgoing} {status : Nat} {document : Document}
    (h : response.Shows status document) :
    (service.dressed version request response).Shows status document := by
  have hadded : ((response.setHeader "x-mc-version" version).addHeader "cache-control"
      "no-store").Shows status document := by
    unfold Outgoing.addHeader
    split
    · exact ⟨h.status, h.page⟩
    · exact ⟨h.status, h.page⟩
  unfold dressed
  dsimp only
  split
  · exact hadded
  · exact ⟨hadded.status, hadded.page⟩

theorem errorKind_of_shows {response : Outgoing} {status : Nat} {failure : Failure}
    (h : response.Shows status (service.failureDocument failure)) :
    response.errorKind? = some failure.kind.code := by
  rw [Outgoing.errorKind?, h.members]
  rfl

theorem stamp_eq (hversion : service.version = .str version)
    (hoctets : ∀ c ∈ version.toList, c.toNat < 0x100) (response : Outgoing) :
    service.stamp (.response response) = .response
      ((response.setHeader "x-mc-version" version).addHeader "cache-control" "no-store") := by
  have hall : (version.toList.all fun c => decide (c.toNat < 0x100)) = true :=
    List.all_eq_true.mpr fun c hc => decide_eq_true (hoctets c hc)
  simp only [stamp, hversion, hall, if_true]

theorem ofResponse_answer (hversion : service.version = .str version)
    (hwhole : isWhole version = true) {answer : Document} (h : answer.Whole) :
    Served.ofResponse (.ofDocument 200 (service.answerDocument answer)) =
      .response (.ofDocument 200 (service.answerDocument answer)) := by
  have hdocument : (service.answerDocument answer).Whole := by
    unfold answerDocument
    rw [hversion]
    simp only [Document.whole_object, Json.Members.whole_cons]
    exact ⟨by decide, Document.whole_bool true, by decide, Document.whole_str.mpr hwhole,
      by decide, h, Json.Members.whole_nil⟩
  exact Served.ofResponse_of_isWhole (Outgoing.isWhole_ofDocument 200 hdocument)

end

/-! ### Outcomes -/

/-- A document that the engine answers with, and whether it can be delivered. -/
structure Delivery where
  document : Document
  fits : Bool

def Offer.deliver {α : Type} (offer : Offer α) (answer : α) : Delivery :=
  ⟨offer.toDocument answer, offer.fits answer⟩

section

variable {τ : Type}

/-- An outcome that can be told: its texts are whole, its numbers are finite, and a document can be
delivered. -/
def Clear (service : Service τ) : Except Stop Delivery → Prop
  | .ok delivery =>
    delivery.fits = true ∧ delivery.document.Whole ∧ delivery.document.isFinite = true
  | .error stop => (service.failureOf stop).Whole

/-- **An audit record and a response that agree with an outcome.** -/
structure Agrees (service : Service τ) (outcome : Except Stop Delivery) (audit : Audit)
    (response : Outgoing) : Prop where
  ok : audit.status = .ok ↔ ∃ delivery, outcome = .ok delivery ∧
    response.Shows 200 (service.answerDocument delivery.document)
  timeout : audit.status = .timeout ↔ ∃ failure, outcome = .error (.failure failure) ∧
    failure.kind = .timeout
  errorCode : audit.errorCode = response.errorKind?
  failure : ∀ failure, outcome = .error (.failure failure) →
    response.Shows failure.kind.status (service.failureDocument failure)
  unforeseen : ∀ stop, outcome = .error stop → stop.Unforeseen →
    (service.failureOf stop).kind = .internal ∧
      response.Shows 500 (service.failureDocument (service.failureOf stop))

/-- The record of an outcome. -/
def recordOf (service : Service τ) (operation subject : String) (elapsed : Int) :
    Except Stop Delivery → Audit
  | .ok _ => ⟨operation, subject, .ok, elapsed, none⟩
  | .error stop => ⟨operation, subject, auditStatus (service.failureOf stop), elapsed,
      some (service.failureOf stop).kind.code⟩

/-- What is served of an outcome. -/
def servedOf (service : Service τ) : Except Stop Delivery → Served
  | .ok delivery =>
    if delivery.fits then .ofResponse (.ofDocument 200 (service.answerDocument delivery.document))
    else .unhandled
  | .error stop => .ofResponse (service.failureResponse (service.failureOf stop))

variable {service : Service τ} {outcome : Except Stop Delivery}

theorem auditStatus_eq_timeout {failure : Failure} :
    auditStatus failure = .timeout ↔ failure.kind = .timeout := by
  unfold auditStatus
  split
  · simpa
  · simpa

theorem kind_of_unforeseen (service : Service τ) {stop : Stop} (h : stop.Unforeseen) :
    (service.failureOf stop).kind = .internal := by
  cases stop with
  | failure failure => exact absurd rfl (h failure)
  | fault fault => rfl
  | unfinished => rfl

theorem agrees_of_served {version : String} (hversion : service.version = .str version)
    (hoctets : ∀ c ∈ version.toList, c.toNat < 0x100) (herrorId : isWhole service.errorId = true)
    (hclear : service.Clear outcome) (request : Incoming) (operation subject : String)
    (elapsed : Int) :
    ∃ response, service.servedOf outcome = .response response ∧
      service.Agrees outcome (service.recordOf operation subject elapsed outcome)
        (service.dressed version request response) := by
  have hwhole := isWhole_of_octets hoctets
  cases outcome with
  | ok delivery =>
    obtain ⟨hfits, hdocument, hfinite⟩ := hclear
    have hserved : service.servedOf (.ok delivery) =
        .response (.ofDocument 200 (service.answerDocument delivery.document)) := by
      rw [servedOf, if_pos hfits, ofResponse_answer hversion hwhole hdocument]
    have hshows := service.shows_dressed version request
      (shows_answer hversion hfinite)
    refine ⟨_, hserved, ?_, ?_, ?_, by simp, by simp⟩
    · exact iff_of_true rfl ⟨delivery, rfl, hshows⟩
    · exact iff_of_false (by simp [recordOf]) (by simp)
    · rw [Outgoing.errorKind?, hshows.members]
      rfl
  | error stop =>
    have hserved : service.servedOf (.error stop) =
        .response (service.failureResponse (service.failureOf stop)) :=
      ofResponse_failure hversion hwhole herrorId hclear
    have hshows := service.shows_dressed version request
      (shows_failureResponse hversion (service.failureOf stop))
    have hcode := errorKind_of_shows hshows
    refine ⟨_, hserved, ?_, ?_, hcode.symm, ?_, ?_⟩
    · refine iff_of_false ?_ (by simp)
      dsimp only [recordOf, auditStatus]
      split <;> simp
    · rw [recordOf, auditStatus_eq_timeout]
      cases stop with
      | failure failure => simp [failureOf]
      | fault fault => simp [failureOf, Failure.kind]
      | unfinished => simp [failureOf, Failure.kind]
    · rintro failure ⟨⟩
      exact hshows
    · rintro other ⟨⟩ hother
      have hkind := service.kind_of_unforeseen hother
      rw [hkind] at hshows
      exact ⟨hkind, hshows⟩

theorem fail_audits (service : Service τ) (failure : Failure) (s : Session τ) :
    (service.fail failure s).2.audits = s.audits := by
  dsimp only [fail]
  rw [Session.audits_note]
  exact List.append_nil _

/-- **One record is left** of a request for an answer, whatever runs and whatever comes of it, as
long as what runs leaves none itself. -/
theorem audited_record [Sub τ] [Timeline τ] (service : Service τ) {version : String}
    (hversion : service.version = .str version) {α : Type} (offer : Offer α) (subject : String)
    (correlation : Option String) (run : Session τ → Except Stop α × Session τ) (s : Session τ)
    (hrun : (run s).2.audits = s.audits) {elapsed : Int}
    (helapsed : millisBetween s.now (run s).2.now = .ok elapsed) :
    (service.audited offer subject correlation run s).2.audits = s.audits ++
        [service.recordOf offer.operation subject elapsed ((run s).1.map offer.deliver)] ∧
      (service.audited offer subject correlation run s).1 =
        service.servedOf ((run s).1.map offer.deliver) := by
  unfold audited
  generalize run s = ran at hrun helapsed
  obtain ⟨outcome, ended⟩ := ran
  dsimp only at hrun helapsed ⊢
  rw [helapsed]
  cases outcome with
  | error stop =>
    refine ⟨?_, rfl⟩
    dsimp only
    rw [fail_audits, Session.audits_note, hrun]
    rfl
  | ok answer =>
    dsimp only
    rw [hversion]
    refine ⟨?_, rfl⟩
    dsimp only
    rw [Session.audits_note, hrun]
    rfl

end

variable {τ : Type} [Zero τ] [Add τ] [Sub τ] [LT τ] [LE τ] [DecidableLT τ] [DecidableLE τ]
  [Timeline τ]

/-! ### Requests that are concluded -/

/-- A request that does not take too long. -/
def InTime (service : Service τ) (request : Incoming) (s : Session τ) : Prop :=
  match service.requestLimit with
  | .unlimited => True
  | .seconds limit => ¬ limit ≤ 0 ∧ ¬ limit ≤ (service.serve request s).2.now - s.now
  | .unusable => False

/-- **A request of which the end can be told**: its time is not up, and its duration is a number. -/
structure Concludes (service : Service τ) (request : Incoming) (s : Session τ) : Prop where
  version : ∃ version, service.version = .str version ∧ ∀ c ∈ version.toList, c.toNat < 0x100
  errorId : isWhole service.errorId = true
  inTime : service.InTime request s
  measured : ∃ elapsed, millisBetween s.now (service.serve request s).2.now = .ok elapsed

section

variable {service : Service τ} {request : Incoming} {s : Session τ}

theorem serveInTime_of_inTime (h : service.InTime request s) : service.serveInTime request s =
    (service.stamp (service.serve request s).1, (service.serve request s).2) := by
  unfold InTime at h
  split at h
  · rename_i hlimit
    unfold serveInTime
    rw [hlimit]
  · rename_i limit hlimit
    exact serveInTime_ended hlimit h.1 h.2
  · exact h.elim

theorem answer_concluded {version : String} (hversion : service.version = .str version)
    (hoctets : ∀ c ∈ version.toList, c.toNat < 0x100) (hquestion : Cors.question? request = none)
    (h : service.InTime request s) : service.answer request s =
      match service.serve request s with
      | (.unhandled, ended) => (service.faultResponse, service.noteUnhandled ended)
      | (.response response, ended) => (service.dressed version request response, ended) := by
  unfold answer
  rw [hquestion, serveInTime_of_inTime h]
  generalize service.serve request s = ran
  obtain ⟨served, ended⟩ := ran
  cases served with
  | unhandled => rfl
  | response response =>
    dsimp only
    rw [stamp_eq hversion hoctets]
    unfold dressed
    dsimp only
    split <;> simp only [*]

end

/-! ### Agreement -/

/-- **What the engine makes of a payload**, if it is asked: a sign of life is not its business, and
neither is a payload that does not validate. -/
def outcome? (service : Service τ) (correlation : Option String) (payload : Members)
    (s : Session τ) : Topic → Option (Except Stop Delivery)
  | .kpi =>
    match payload.get? "ping" with
    | some (.bool true) => none
    | _ =>
      match fromPayload KpiRequest.ofDocument (.object payload) with
      | .error _ => none
      | .ok request =>
        some ((service.engine.answerKpi request correlation s).1.map service.kpiOffer.deliver)
  | .options =>
    match fromPayload OptionsRequest.ofDocument (.object payload) with
    | .error _ => none
    | .ok request =>
      some ((service.engine.answerOptions request correlation s).1.map optionsOffer.deliver)

/-- A payload that names an indicator and nothing else asks for it by time, for the year to date. -/
theorem outcome_named (service : Service τ) (correlation : Option String) (name : String)
    (s : Session τ) : service.outcome? correlation [("kpi", .str name)] s .kpi =
      some ((service.engine.answerKpi ⟨false, name, .time, .yearToDate, none, .none⟩ correlation
        s).1.map service.kpiOffer.deliver) := rfl

section

variable (service : Service τ) (correlation : Option String) {payload : Members} (s : Session τ)

/-- A payload that asks for more than a sign of life is the business of the engine. -/
theorem outcome_asked (h : payload.get? "ping" ≠ some (.bool true)) :
    service.outcome? correlation payload s .kpi =
      match fromPayload KpiRequest.ofDocument (.object payload) with
      | .error _ => none
      | .ok request =>
        some ((service.engine.answerKpi request correlation s).1.map service.kpiOffer.deliver) := by
  unfold outcome?
  dsimp only
  split
  · exact absurd ‹_› h
  · rfl

theorem serveQuery_asked (h : payload.get? "ping" ≠ some (.bool true)) :
    service.serveQuery correlation payload s =
      match fromPayload KpiRequest.ofDocument (.object payload) with
      | .error failure => service.fail failure s
      | .ok request =>
        service.audited service.kpiOffer request.kpi correlation
          (service.engine.answerKpi request correlation) s := by
  unfold serveQuery
  split
  · exact absurd ‹_› h
  · rfl

end

/-- **What is served of a posted payload**: either the engine is not asked and no record is left, or
what it makes of the payload is served. -/
theorem serveTopic_cases (service : Service τ) (correlation : Option String) {document : Document}
    {payload : Option Members} (hpayload : payloadOf document = .ok payload) (s : Session τ)
    (topic : Topic) :
    (service.outcome? correlation (payload.getD []) s topic = none ∧
      (service.serveTopic correlation document s topic).2.audits = s.audits) ∨
    ∃ (α : Type) (offer : Offer α) (subject : String)
        (run : Session τ → Except Stop α × Session τ),
      service.outcome? correlation (payload.getD []) s topic =
          some ((run s).1.map offer.deliver) ∧
        service.serveTopic correlation document s topic =
          service.audited offer subject correlation run s ∧
        (run s).2.audits = s.audits := by
  rw [serveTopic, hpayload]
  cases topic with
  | kpi =>
    by_cases hping : (payload.getD []).get? "ping" = some (.bool true)
    · refine .inl ⟨?_, ?_⟩
      · simp only [outcome?, hping]
      · simp only [serveQuery, hping]
    · dsimp only
      rw [service.outcome_asked correlation s hping, service.serveQuery_asked correlation s hping]
      cases fromPayload KpiRequest.ofDocument (.object (payload.getD [])) with
      | error failure => exact .inl ⟨rfl, service.fail_audits failure s⟩
      | ok query =>
        exact .inr ⟨_, service.kpiOffer, query.kpi, service.engine.answerKpi query correlation, rfl,
          rfl, service.engine.answerKpi_audits correlation s query⟩
  | options =>
    dsimp only [outcome?, serveFilters]
    cases fromPayload OptionsRequest.ofDocument (.object (payload.getD [])) with
    | error failure => exact .inl ⟨rfl, service.fail_audits failure s⟩
    | ok query =>
      exact .inr ⟨_, optionsOffer, query.table ++ "." ++ query.dimension,
        service.engine.answerOptions query correlation, rfl, rfl,
        service.engine.answerOptions_audits correlation s query⟩

section

variable {service : Service τ} {request : Incoming} {topic : Topic} {document : Document}
  {payload : Option Members} {s : Session τ} {version : String}

theorem answer_of_response (hversion : service.version = .str version)
    (hoctets : ∀ c ∈ version.toList, c.toNat < 0x100) (h : request.Posts topic document)
    (hinTime : service.InTime request s) {response : Outgoing}
    (hserved : (service.serve request s).1 = .response response) :
    (service.answer request s).1 = service.dressed version request response := by
  rw [answer_concluded hversion hoctets (question_of_posts h) hinTime]
  generalize service.serve request s = ran at hserved
  obtain ⟨served, ended⟩ := ran
  dsimp only at hserved
  rw [hserved]

theorem answer_of_unhandled (hversion : service.version = .str version)
    (hoctets : ∀ c ∈ version.toList, c.toNat < 0x100) (h : request.Posts topic document)
    (hinTime : service.InTime request s) (hserved : (service.serve request s).1 = .unhandled) :
    (service.answer request s).1 = service.faultResponse := by
  rw [answer_concluded hversion hoctets (question_of_posts h) hinTime]
  generalize service.serve request s = ran at hserved
  obtain ⟨served, ended⟩ := ran
  dsimp only at hserved
  rw [hserved]

/-- The layers around what serves a request leave no audit record. -/
theorem answer_audits (h : request.Posts topic document) (concludes : service.Concludes request s) :
    (service.answer request s).2.audits = (service.serve request s).2.audits := by
  obtain ⟨version, hversion, hoctets⟩ := concludes.version
  rw [answer_concluded hversion hoctets (question_of_posts h) concludes.inTime]
  generalize service.serve request s = ran
  obtain ⟨served, ended⟩ := ran
  cases served with
  | response response => rfl
  | unhandled =>
    dsimp only [noteUnhandled]
    rw [Session.audits_note]
    exact List.append_nil _

theorem serve_outcome (h : request.Posts topic document)
    (hpayload : payloadOf document = .ok payload) (concludes : service.Concludes request s)
    {outcome : Except Stop Delivery}
    (hasked : service.outcome? (header? request.headers "x-correlation-id") (payload.getD []) s
      topic = some outcome) :
    ∃ operation subject elapsed,
      (service.serve request s).2.audits =
          s.audits ++ [service.recordOf operation subject elapsed outcome] ∧
        (service.serve request s).1 = service.servedOf outcome := by
  obtain ⟨version, hversion, -⟩ := concludes.version
  obtain ⟨elapsed, helapsed⟩ := concludes.measured
  rcases service.serveTopic_cases (header? request.headers "x-correlation-id") hpayload s topic with
    ⟨hnone, -⟩ | ⟨α, offer, subject, run, hsome, hserve, hrun⟩
  · rw [hnone] at hasked
    cases hasked
  · rw [hsome, Option.some.injEq] at hasked
    rw [service.serve_of_posts h s, hserve] at helapsed ⊢
    rw [(service.audited_session offer subject _ run s).1] at helapsed
    rw [← hasked]
    exact ⟨_, subject, elapsed,
      service.audited_record hversion offer subject _ run s hrun helapsed⟩

/-- In production nothing is told of what was not foreseen. -/
theorem answer_unforeseen (service : Service τ) {s : Session τ}
    (hversion : service.version = .str version) (hoctets : ∀ c ∈ version.toList, c.toNat < 0x100)
    (hproduction : service.isProduction = true) (h : request.Posts topic document)
    (hpayload : payloadOf document = .ok payload)
    (concludes : service.Concludes request s) {stop : Stop} (hstop : stop.Unforeseen)
    (hasked : service.outcome? (header? request.headers "x-correlation-id") (payload.getD []) s
      topic = some (.error stop)) :
    (service.answer request s).1 = service.dressed version request
      (service.failureResponse (.internal "Internal processing error")) := by
  have hhidden : service.failureOf stop = .internal "Internal processing error" := by
    cases stop with
    | failure failure => exact absurd rfl (hstop failure)
    | fault fault => simp [failureOf, publicMessage, hproduction]
    | unfinished => simp [failureOf, publicMessage, hproduction]
  have hwhole : (Failure.internal "Internal processing error").Whole :=
    ⟨by decide, Json.Members.whole_nil⟩
  obtain ⟨-, -, -, -, hserved⟩ := serve_outcome h hpayload concludes hasked
  rw [servedOf, hhidden, ofResponse_failure hversion (isWhole_of_octets hoctets) concludes.errorId
    hwhole] at hserved
  exact answer_of_response hversion hoctets h concludes.inTime hserved

/-- **The audit record, the response and the outcome agree** for every posted payload. A payload
that the engine is not asked for leaves no record. Any other leaves one, which agrees with what the
engine made of it and with what the caller is told; that an answer cannot be delivered is not
recorded. In production all that was not foreseen is told alike. -/
theorem answer_agrees (h : request.Posts topic document)
    (hpayload : payloadOf document = .ok payload) (concludes : service.Concludes request s) :
    let correlation := header? request.headers "x-correlation-id"
    let asked := service.outcome? correlation (payload.getD []) s topic
    (asked = none → (service.answer request s).2.audits = s.audits) ∧
      (∀ outcome, asked = some outcome → ∃ audit,
        (service.answer request s).2.audits = s.audits ++ [audit] ∧
          (service.Clear outcome → service.Agrees outcome audit (service.answer request s).1) ∧
          ∀ delivery, outcome = .ok delivery → delivery.fits = false → audit.status = .ok ∧
            (service.answer request s).1.Shows 500
              (service.failureDocument (.internal "Unexpected internal error"))) ∧
      (service.isProduction = true → ∀ (engine : Engine τ) (other : Session τ) (stop stop' : Stop),
        asked = some (.error stop) → stop.Unforeseen →
        { service with engine }.Concludes request other →
        { service with engine }.outcome? correlation (payload.getD []) other topic =
          some (.error stop') → stop'.Unforeseen →
        ({ service with engine }.answer request other).1 = (service.answer request s).1) := by
  intro correlation asked
  obtain ⟨version, hversion, hoctets⟩ := concludes.version
  refine ⟨fun hnone => ?_, fun outcome hasked => ?_, ?_⟩
  · rw [answer_audits h concludes, service.serve_of_posts h s]
    rcases service.serveTopic_cases correlation hpayload s topic with
      ⟨-, haudits⟩ | ⟨α, offer, subject, run, hsome, -⟩
    · exact haudits
    · exact absurd (hsome.symm.trans hnone) (by simp)
  · obtain ⟨operation, subject, elapsed, haudits, hserved⟩ :=
      serve_outcome h hpayload concludes hasked
    refine ⟨_, (answer_audits h concludes).trans haudits, fun hclear => ?_, ?_⟩
    · obtain ⟨response, hresponse, hagrees⟩ := agrees_of_served hversion hoctets concludes.errorId
        hclear request operation subject elapsed
      rw [answer_of_response hversion hoctets h concludes.inTime (hserved.trans hresponse)]
      exact hagrees
    · rintro delivery rfl hfits
      refine ⟨rfl, ?_⟩
      rw [servedOf, if_neg (by simp [hfits])] at hserved
      rw [answer_of_unhandled hversion hoctets h concludes.inTime hserved]
      exact shows_faultResponse hversion
  · intro hproduction engine other stop stop' hasked hstop concludes' hasked' hstop'
    rw [service.answer_unforeseen hversion hoctets hproduction h hpayload concludes hstop hasked]
    exact answer_unforeseen { service with engine } hversion hoctets hproduction h hpayload
      concludes' hstop' hasked'

end

/-! ### Answers that are not delivered -/

omit [Zero τ] [Add τ] [Sub τ] [LT τ] [LE τ] [DecidableLT τ] [DecidableLE τ] [Timeline τ] in
theorem height_lt_answer (service : Service τ) {answer : KpiAnswer} {row : KpiRow}
    (h : row ∈ answer.rows) :
    row.dimension.height < (service.answerDocument answer.toDocument).height := by
  have hitems : ∀ rows : List KpiRow, row ∈ rows →
      row.dimension.height < Document.heightOfItems (rows.map KpiRow.toDocument) := by
    intro rows hrow
    induction rows with
    | nil => cases hrow
    | cons first rest ih =>
      rw [List.map_cons, Document.heightOfItems]
      rcases List.mem_cons.mp hrow with rfl | hrow
      · simp only [KpiRow.toDocument, Document.height, Document.heightOfMembers]
        omega
      · exact (ih hrow).trans_le (le_max_right _ _)
  have hrows := hitems answer.rows h
  simp only [answerDocument, KpiAnswer.toDocument, Document.height, Document.heightOfMembers]
  omega

end Service

end Web

open Web Web.Service

theorem Engine.exists_answerKpi {τ : Type} [Zero τ] [Add τ] [Sub τ] [LT τ] [LE τ] [DecidableLT τ]
    [DecidableLE τ] [Timeline τ] {engine : Engine τ} {request : KpiRequest}
    {correlation : Option String} {s ended : Session τ} {statement : Sql.Statement}
    {result : Warehouse.Result} {rows : List KpiRow} {elapsed : Int}
    (hquiet : engine.logsStatements = false)
    (hstatement : engine.kpiStatement request = .ok statement) (hwhole : isWhole statement.text = true)
    (hexecute : engine.execute engine.kpiTerms statement.text correlation s = (.ok result, ended))
    (hrows : capped statement.rowLimit kpiRows result.rows = .ok rows)
    (helapsed : millisBetween s.now ended.now = .ok elapsed) :
    ∃ answer, (engine.answerKpi request correlation s).1 = .ok answer ∧ answer.rows = rows := by
  obtain ⟨hash, hhash⟩ := Sql.fingerprint_of_whole hwhole
  have hnote : engine.noteStatement "kpi" statement.text hash correlation s = s := by
    rw [noteStatement, hquiet]
    rfl
  unfold answerKpi answerKpiBy report
  simp only [hstatement, hhash, hnote, hexecute, hrows, helapsed]
  exact ⟨_, rfl, rfl⟩

namespace Web.Service

/-- A warehouse that answers with a cell nested 256 deep. -/
def deepSession : Session Rat :=
  Warehouse.exactSession
    [Warehouse.exactResult [("data_array", .list [.list [nested 255, .int 1, .int 2]])]]

/-- The time of a request under the exact settings is not up, and its duration is a number. -/
theorem concludes_exactSettings (request : Incoming) (s : Session Rat) :
    (ofSteps Warehouse.exactSettings "error-1" "2026-01-15" 50).Concludes request s :=
  { version := ⟨_, rfl, plain_exactSettings.version⟩
    errorId := by decide
    inTime := ⟨by decide +kernel, not_le.mpr (serve_lt_requestTimeout Warehouse.exactSettings
      "error-1" "2026-01-15" 51 (by decide +kernel) (by decide +kernel) (by decide +kernel)
      (by decide +kernel) request s)⟩
    measured := ⟨_, rfl⟩ }

/-- A request for an indicator that is not in the catalog. -/
def unknownRequest : Incoming :=
  ⟨"POST", "/api/query", [], .document (.object [("kpi", .str "bogus")])⟩

/-- An indicator that is not known is recorded and refused. -/
theorem answer_agrees_unknown :
    unknownRequest.Posts .kpi (.object [("kpi", .str "bogus")]) ∧
      (ofSteps Warehouse.exactSettings "error-1" "2026-01-15" 50).Concludes unknownRequest
        deepSession ∧
      ∃ audit, ((ofSteps Warehouse.exactSettings "error-1" "2026-01-15" 50).answer unknownRequest
          deepSession).2.audits = [audit] ∧ audit.errorCode = some Kind.invalidRequest.code ∧
        ((ofSteps Warehouse.exactSettings "error-1" "2026-01-15" 50).answer unknownRequest
          deepSession).1.Shows 400 ((ofSteps Warehouse.exactSettings "error-1" "2026-01-15"
            50).failureDocument (.unknownKpi "bogus")) := by
  have hpost : unknownRequest.Posts .kpi (.object [("kpi", .str "bogus")]) :=
    ⟨rfl, by decide +kernel, rfl⟩
  have concludes := concludes_exactSettings unknownRequest deepSession
  obtain ⟨-, hasked, -⟩ := answer_agrees hpost rfl concludes
  obtain ⟨audit, haudits, hagrees, -⟩ := hasked (.error (.failure (.unknownKpi "bogus")))
    (outcome_named _ none "bogus" deepSession)
  have agrees := hagrees (Failure.whole_unknownKpi (by decide))
  have hshows := agrees.failure _ rfl
  exact ⟨hpost, concludes, audit, haudits, agrees.errorCode.trans (errorKind_of_shows hshows),
    hshows⟩

theorem exists_answerKpi_deepSession :
    ∃ answer, ((ofSteps Warehouse.exactSettings "error-1" "2026-01-15" 50).engine.answerKpi
        ⟨false, "volume", .time, .yearToDate, none, .none⟩ none deepSession).1 = .ok answer ∧
      ∃ row ∈ answer.rows, row.dimension.height = 256 := by
  let engine := (ofSteps Warehouse.exactSettings "error-1" "2026-01-15" 50).engine
  let request : KpiRequest := ⟨false, "volume", .time, .yearToDate, none, .none⟩
  obtain ⟨kpi, hkpi⟩ : ∃ kpi, Kpi.find? "volume" = some kpi := ⟨_, rfl⟩
  have hcompiled := @KpiRequest.statement_of_find request kpi hkpi engine.space 500 none
  have hstatement : engine.kpiStatement request =
      .ok (kpi.statement request engine.space 500 none) :=
    congrArg (Except.mapError Stop.failure) hcompiled
  have hwhole := KpiRequest.whole_statement ⟨by decide, by decide⟩ (by simp) hcompiled
  -- The run is looked at for the empty statement, which is read faster than the one compiled.
  have hread : ((engine.execute engine.kpiTerms "" none deepSession).1.toOption.bind fun result =>
      (capped 500 kpiRows result.rows).toOption.map fun rows =>
        rows.map (·.dimension.height)) = some [256] := by
    decide +kernel
  obtain ⟨result, hresult, hread⟩ := Option.bind_eq_some_iff.mp hread
  obtain ⟨rows, hrows, hheights⟩ := Option.map_eq_some_iff.mp hread
  have hwritable : ∀ text, Text.isWhole text = true →
      (Warehouse.exactClient.order text).Writable := fun text htext =>
    Document.isWhole_write _ (Client.whole_order rfl rfl (by decide) (by decide) htext)
  have hclient : ∀ text, engine.execute engine.kpiTerms text none deepSession =
      Warehouse.exactClient.execute engine.patience ⟨text, .ok (7 / 20), 12, none⟩ deepSession :=
    fun text => engine.execute_eq_client rfl rfl text none deepSession
  have hexecute : (engine.execute engine.kpiTerms
      (kpi.statement request engine.space 500 none).text none deepSession).1 = .ok result := by
    have hempty := toOption_eq_some.mp hresult
    rw [hclient] at hempty ⊢
    exact Client.execute_of_writable (by decide) (hwritable _ (by decide)) (hwritable _ hwhole)
      hempty
  generalize hran : engine.execute engine.kpiTerms
    (kpi.statement request engine.space 500 none).text none deepSession = ran at hexecute
  obtain ⟨outcome, ended⟩ := ran
  cases hexecute
  have hmillis : ∃ elapsed, millisBetween deepSession.now ended.now = .ok elapsed := ⟨_, rfl⟩
  obtain ⟨elapsed, helapsed⟩ := hmillis
  obtain ⟨answer, hanswer, rfl⟩ := engine.exists_answerKpi rfl hstatement hwhole hran
    (toOption_eq_some.mp hrows) helapsed
  have hmem : 256 ∈ answer.rows.map (·.dimension.height) := by
    rw [hheights]
    exact List.mem_singleton_self 256
  exact ⟨answer, hanswer, List.mem_map.mp hmem⟩

/-- **An answer that is nested too deep is recorded, but not given**: the caller is told of a fault.
Under a version that cannot be told in a header a refusal is recorded, and the caller is told of a
fault as well. -/
theorem answer_disagrees :
    let delivered := (ofSteps Warehouse.exactSettings "error-1" "2026-01-15" 50).answer
      volumeRequest deepSession
    let stamped := (ofSteps { Warehouse.exactSettings with apiVersion := "→" } "error-1"
      "2026-01-15" 50).answer unknownRequest deepSession
    delivered.2.audits.map (·.status) = [.ok] ∧ delivered.1.status = 500 ∧
      delivered.1.errorKind? = some Kind.internal.code ∧
      stamped.2.audits.map (·.errorCode) = [some Kind.invalidRequest.code] ∧
      stamped.1.errorKind? = some Kind.internal.code := by
  let service := ofSteps Warehouse.exactSettings "error-1" "2026-01-15" 50
  obtain ⟨answer, hanswer, row, hrow, hheight⟩ := exists_answerKpi_deepSession
  have hasked : service.outcome? none [("kpi", .str "volume")] deepSession .kpi =
      some (.ok (service.kpiOffer.deliver answer)) := by
    rw [outcome_named, hanswer]
    rfl
  have hfits : service.kpiOffer.fits answer = false := by
    have hdeep := service.height_lt_answer hrow
    exact decide_eq_false (by unfold maxHeight; omega)
  have concludes := concludes_exactSettings volumeRequest deepSession
  obtain ⟨operation, subject, elapsed, haudits, hserved⟩ :=
    serve_outcome posts_volumeRequest rfl concludes hasked
  rw [servedOf, if_neg (by simp [Offer.deliver, hfits])] at hserved
  have hanswered := answer_of_unhandled rfl plain_exactSettings.version posts_volumeRequest
    concludes.inTime hserved
  have hshows : service.faultResponse.Shows 500
      (service.failureDocument (.internal "Unexpected internal error")) := shows_faultResponse rfl
  refine ⟨?_, ?_, ?_, by decide +kernel, by decide +kernel⟩
  · rw [answer_audits posts_volumeRequest concludes, haudits]
    rfl
  · rw [hanswered]
    exact hshows.status
  · rw [hanswered]
    exact errorKind_of_shows hshows

end Web.Service

end Indicator
