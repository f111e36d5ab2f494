import Indicator.Proofs.Web.Demand
import Indicator.Proofs.Web.Response

/-!
# What reaches the warehouse

Only the statement of a request that is valid is sent to the warehouse, as it was compiled, and only
if the warehouse is configured. Everything else is answered without a request.

* `Service.answer_of_posts`: what becomes of a posted document.
* `Service.Meets`: how a demand is met: by sending a statement, or without any request.
* `Service.answer_meets`: **every posted document is met as it demands.**
-/

namespace Indicator

open Json (Document Members)
open Text (isWhole)
open Warehouse (Client Session Stop)

namespace Web

/-! ### Responses without lone surrogates -/

theorem Outgoing.isWhole_ofDocument (status : Nat) {value : Document} (h : value.Whole) :
    (Outgoing.ofDocument status value).isWhole = true := by
  show (value.finite.texts.all Text.isWhole) = true
  rw [Document.texts_finite]
  exact List.all_eq_true.mpr h

theorem isWhole_of_octets {text : String} (h : ∀ c ∈ text.toList, c.toNat < 0x100) :
    Text.isWhole text = true :=
  Text.isWhole_iff.mpr fun c hc => Text.isScalar_of_lt ((h c hc).trans (by decide))

theorem Served.ofResponse_of_isWhole {response : Outgoing} (h : response.isWhole = true) :
    Served.ofResponse response = .response response := if_pos h

namespace Service

section

variable {τ : Type} {service : Service τ} {version : String}

/-- A failure that is told in whole texts is told. -/
theorem ofResponse_failure (hversion : service.version = .str version)
    (hwhole : isWhole version = true) (herrorId : isWhole service.errorId = true)
    {failure : Failure} (h : failure.Whole) :
    Served.ofResponse (service.failureResponse failure) =
      .response (service.failureResponse failure) := by
  have hcode : isWhole failure.kind.code = true := by
    cases failure.kind <;> decide
  have hdetails : Members.Whole
      (if failure.details.isEmpty then [] else [("details", .object failure.details)]) := by
    split
    · exact Members.whole_nil
    · exact Members.whole_cons.mpr ⟨by decide, h.details, Members.whole_nil⟩
  have hdocument : Members.Whole [("ok", .bool false), ("version", service.version),
      ("error", .object ([("kind", .str failure.kind.code), ("message", .str failure.message),
        ("errorId", .str service.errorId)] ++
        if failure.details.isEmpty then [] else [("details", .object failure.details)]))] := by
    rw [hversion]
    simp only [Members.whole_cons, Document.whole_object, Members.whole_append]
    exact ⟨by decide, Document.whole_bool false, by decide, Document.whole_str.mpr hwhole,
      by decide, ⟨⟨by decide, Document.whole_str.mpr hcode, by decide,
        Document.whole_str.mpr h.message, by decide, Document.whole_str.mpr herrorId,
        Members.whole_nil⟩, hdetails⟩, Members.whole_nil⟩
  exact Served.ofResponse_of_isWhole
    (Outgoing.isWhole_ofDocument failure.kind.status (Document.whole_object.mpr hdocument))

theorem isWhole_wholeKey (key : String) : isWhole (wholeKey key) = true := by
  refine Text.isWhole_ofList.mpr fun d hd => ?_
  obtain ⟨c, -, hd⟩ := List.mem_flatMap.mp hd
  split at hd
  · rename_i hscalar
    rwa [List.mem_singleton.mp hd]
  · rw [List.eq_of_mem_replicate hd]
    decide

/-- A whole payload is sent back, if it is not nested too deep. -/
theorem servePing_response (hversion : service.version = .str version)
    (hwhole : isWhole version = true) (htoday : isWhole service.today = true)
    {received : Members} (h : received.Whole)
    (hheight : (service.pingDocument received).height ≤ maxHeight) :
    service.servePing received =
      .response (Outgoing.ofDocument 200 (service.pingDocument received)) := by
  have hkeys : ∀ (rest members : Members), rest.Whole → members.Whole →
      Members.Whole (rest.foldl (fun (members : Members) member =>
        members.insert (wholeKey member.1) member.2) members) := by
    intro rest
    induction rest with
    | nil => exact fun _ _ hmembers => hmembers
    | cons member rest ih =>
      intro members hrest hmembers
      rw [Members.whole_cons] at hrest
      exact ih _ hrest.2.2 (hmembers.insert (isWhole_wholeKey _) hrest.2.1)
  have hdocument : (service.pingDocument received).Whole := by
    unfold pingDocument
    rw [hversion]
    simp only [Document.whole_object, Members.whole_cons]
    exact ⟨by decide, Document.whole_bool true, by decide, Document.whole_str.mpr (by decide),
      by decide, Document.whole_str.mpr htoday, by decide, Document.whole_str.mpr hwhole,
      by decide, hkeys received [] h Members.whole_nil, Members.whole_nil⟩
  unfold servePing
  dsimp only
  rw [hversion]
  dsimp only
  rw [if_pos hheight]
  exact Served.ofResponse_of_isWhole (Outgoing.isWhole_ofDocument 200 hdocument)

theorem servePing_unhandled {received : Members}
    (hheight : ¬ (service.pingDocument received).height ≤ maxHeight) :
    service.servePing received = .unhandled := by
  unfold servePing
  dsimp only
  split
  · rw [if_neg hheight]
  · rfl

end

end Service

/-! ### Posted documents -/

theorem fromPayload_object {α : Type} (read : Document → Checked α) (payload : Members) :
    fromPayload read (.object payload) = (read (.object payload)).mapError .malformedRequest := by
  cases payload <;> rfl

/-- **A request that posts a document** to ask for something. -/
structure Incoming.Posts (request : Incoming) (topic : Topic) (document : Document) : Prop where
  method : request.method = "POST"
  path : request.path = topic.path
  payload : request.payload = payloadOf document

theorem whole_of_payloadOf {document : Document} (h : document.Whole) {payload : Option Members}
    (hpayload : payloadOf document = .ok payload) : Members.Whole (payload.getD []) := by
  cases document with
  | null =>
    cases hpayload
    exact Members.whole_nil
  | object members =>
    cases hpayload
    exact h
  | _ => cases hpayload

theorem payloadOf_eq_error {document : Document} {refusal : PayloadRefusal}
    (h : payloadOf document = .error refusal) : refusal = .notObject := by
  cases document with
  | null => cases h
  | object members => cases h
  | _ =>
    cases h
    rfl

theorem question_of_posts {request : Incoming} {topic : Topic} {document : Document}
    (h : request.Posts topic document) : Cors.question? request = none := by
  unfold Cors.question?
  rw [h.method]
  rfl

namespace Service

variable {τ : Type} [Zero τ] [Add τ] [Sub τ] [LT τ] [LE τ] [DecidableLT τ] [DecidableLE τ]
  [Timeline τ]

/-- The members of a response, told of what was served. -/
def Tells (service : Service τ) (served : Served) (members : Members) : Prop :=
  (served = .unhandled ∧ members = service.faultResponse.members) ∨
    ∃ response, served = .response response ∧ members = response.members

/-- What a posted document leads to. -/
def serveTopic (service : Service τ) (correlation : Option String) (document : Document)
    (s : Session τ) (topic : Topic) : Served × Session τ :=
  match payloadOf document with
  | .error refusal => (.response (service.refusePayload refusal), s)
  | .ok payload =>
    match topic with
    | .kpi => service.serveQuery correlation (payload.getD []) s
    | .options => service.serveFilters correlation (payload.getD []) s

theorem serve_of_posts (service : Service τ) {request : Incoming} {topic : Topic}
    {document : Document} (h : request.Posts topic document) (s : Session τ) :
    service.serve request s =
      service.serveTopic (header? request.headers "x-correlation-id") document s topic := by
  have hdestination : ∀ documented : Bool,
      destination (routes documented) "POST" topic.path = .endpoint topic.endpoint := by
    cases topic <;> decide
  unfold serve
  rw [h.method, h.path, hdestination]
  dsimp only
  unfold serveTopic
  cases topic with
  | kpi =>
    unfold serveEndpoint
    rw [h.payload]
    cases payloadOf document <;> rfl
  | options =>
    unfold serveEndpoint
    rw [h.payload]
    cases payloadOf document <;> rfl

section

variable {service : Service τ} {limit : τ} {request : Incoming} {s : Session τ}

/-- **What becomes of a posted document** is told as it was served, unless it took too long. -/
theorem answer_of_posts {version : String} (hlimit : service.requestLimit = .seconds limit)
    (hbegins : ¬ limit ≤ 0) (hversion : service.version = .str version)
    (hoctets : ∀ c ∈ version.toList, c.toNat < 0x100) {topic : Topic} {document : Document}
    (h : request.Posts topic document) :
    (service.answer request s).2.now = (service.serve request s).2.now ∧
      (service.answer request s).2.exchanges = (service.serve request s).2.exchanges ∧
      (service.Tells (service.serve request s).1 (service.answer request s).1.members ∨
        (limit ≤ (service.serve request s).2.now - s.now ∧
          (service.answer request s).1.members =
            (service.failureResponse .requestTimeout).members)) := by
  have hquestion := question_of_posts h
  by_cases hlate : limit ≤ (service.serve request s).2.now - s.now
  · obtain ⟨ended, hserved, hendedNow, hendedExchanges⟩ := serveInTime_late hlimit hbegins hlate
    obtain ⟨hnow, hexchanges, htold⟩ := service.answer_cases hquestion hserved
    refine ⟨hnow.trans hendedNow, hexchanges.trans hendedExchanges, .inr ⟨hlate, ?_⟩⟩
    rcases htold with ⟨hfault, -⟩ | ⟨response, hresponse, hmembers⟩
    · cases hfault
    · cases hresponse
      exact hmembers
  · obtain ⟨hnow, hexchanges, htold⟩ :=
      service.answer_cases hquestion (serveInTime_ended hlimit hbegins hlate)
    refine ⟨hnow, hexchanges, .inl ?_⟩
    rcases htold with ⟨hfault, hmembers⟩ | ⟨stamped, hstamp, hmembers⟩
    · cases hserved : (service.serve request s).1 with
      | unhandled => exact .inl ⟨rfl, hmembers⟩
      | response response =>
        obtain ⟨stamped, hstamp, -⟩ := service.stamp_response hversion hoctets response
        rw [hserved, hstamp] at hfault
        cases hfault
    · obtain ⟨response, hresponse, hinner⟩ := service.members_of_stamp hstamp
      exact .inr ⟨response, hresponse, hmembers.trans hinner⟩

end

/-! ### Answers without a request -/

/-- A demand that is met without a request, by telling of an error. -/
structure Withheld (kind : Kind) (s : Session τ) (done : Outgoing × Session τ) : Prop where
  idle : s.Idle done.2
  told : done.1.errorKind? = some kind.code

/-- A service that can tell at an instant what it has to tell. -/
structure Ready (service : Service τ) (now : τ) : Prop where
  version : ∃ version, service.version = .str version ∧ ∀ c ∈ version.toList, c.toNat < 0x100
  errorId : isWhole service.errorId = true
  today : isWhole service.today = true
  limit : ∃ limit, service.requestLimit = .seconds limit ∧ ¬ limit ≤ 0 ∧ ¬ limit ≤ now - now
  measured : ∃ elapsed, millisBetween now now = .ok elapsed

section

variable {service : Service τ} {request : Incoming} {topic : Topic} {document : Document}
  {s : Session τ}

omit [Zero τ] [Add τ] [LT τ] [LE τ] [DecidableLT τ] [DecidableLE τ] in
theorem ofResponse_cases (response : Outgoing) :
    Served.ofResponse response = .response response ∨ Served.ofResponse response = .unhandled := by
  unfold Served.ofResponse
  split
  · exact .inl rfl
  · exact .inr rfl

theorem exchanges_of_posts (ready : service.Ready s.now) (h : request.Posts topic document) :
    (service.answer request s).2.exchanges = (service.serve request s).2.exchanges := by
  obtain ⟨version, hversion, hoctets⟩ := ready.version
  obtain ⟨limit, hlimit, hbegins, -⟩ := ready.limit
  exact (answer_of_posts hlimit hbegins hversion hoctets h).2.1

/-- What was served at once is told. -/
theorem tells_of_idle (ready : service.Ready s.now) (h : request.Posts topic document)
    (hidle : s.Idle (service.serve request s).2) :
    s.Idle (service.answer request s).2 ∧
      service.Tells (service.serve request s).1 (service.answer request s).1.members := by
  obtain ⟨version, hversion, hoctets⟩ := ready.version
  obtain ⟨limit, hlimit, hbegins, hpasses⟩ := ready.limit
  obtain ⟨hnow, hexchanges, htold⟩ := answer_of_posts (s := s) hlimit hbegins hversion hoctets h
  refine ⟨hidle.congr hexchanges hnow, ?_⟩
  rcases htold with htold | ⟨hlate, -⟩
  · exact htold
  · rw [hidle.now] at hlate
    exact absurd hlate hpasses

theorem withheld_of_response (ready : service.Ready s.now) (h : request.Posts topic document)
    {kind : Kind} (hidle : s.Idle (service.serve request s).2) {response : Outgoing}
    (hserved : (service.serve request s).1 = .response response)
    (hkind : response.errorKind? = some kind.code) :
    Withheld kind s (service.answer request s) := by
  obtain ⟨hidle, htold⟩ := tells_of_idle ready h hidle
  refine ⟨hidle, ?_⟩
  rw [hserved] at htold
  rcases htold with ⟨hfault, -⟩ | ⟨found, hfound, hmembers⟩
  · cases hfault
  · cases hfound
    rw [Outgoing.errorKind_congr hmembers, hkind]

theorem withheld_of_unhandled (ready : service.Ready s.now) (h : request.Posts topic document)
    (hidle : s.Idle (service.serve request s).2)
    (hserved : (service.serve request s).1 = .unhandled) :
    Withheld .internal s (service.answer request s) := by
  obtain ⟨hidle, htold⟩ := tells_of_idle ready h hidle
  refine ⟨hidle, ?_⟩
  rw [hserved] at htold
  rcases htold with ⟨-, hmembers⟩ | ⟨found, hfound, -⟩
  · rw [Outgoing.errorKind_congr hmembers, errorKind_faultResponse]
  · cases hfound

theorem withheld_of_failure (ready : service.Ready s.now) (h : request.Posts topic document)
    (hidle : s.Idle (service.serve request s).2) {failure : Failure}
    (hserved : (service.serve request s).1 = .ofResponse (service.failureResponse failure))
    (hfailure : failure.Whole ∨ failure.kind = .internal) :
    Withheld failure.kind s (service.answer request s) := by
  rcases hfailure with hwhole | hinternal
  · obtain ⟨version, hversion, hoctets⟩ := ready.version
    rw [ofResponse_failure hversion (isWhole_of_octets hoctets) ready.errorId hwhole] at hserved
    exact withheld_of_response ready h hidle hserved (service.errorKind_failureResponse failure)
  · rcases ofResponse_cases (service.failureResponse failure) with htold | hfault
    · exact withheld_of_response ready h hidle (hserved.trans htold)
        (service.errorKind_failureResponse failure)
    · rw [hinternal]
      exact withheld_of_unhandled ready h hidle (hserved.trans hfault)

/-! ### Answers from the warehouse -/

variable {α : Type} {offer : Offer α} {subject : String} {correlation : Option String}
  {run : Session τ → Except Stop α × Session τ}

theorem withheld_of_stopped (ready : service.Ready s.now) (h : request.Posts topic document)
    (hserve : service.serve request s = service.audited offer subject correlation run s)
    (hidle : s.Idle (run s).2) {stop : Stop} (hstop : (run s).1 = .error stop)
    (hfailure : (service.failureOf stop).Whole ∨ (service.failureOf stop).kind = .internal) :
    Withheld (service.failureOf stop).kind s (service.answer request s) := by
  obtain ⟨hnow, hexchanges⟩ := service.audited_session offer subject correlation run s
  obtain ⟨elapsed, helapsed⟩ := ready.measured
  rw [← hserve] at hnow hexchanges
  refine withheld_of_failure ready h (hidle.congr hexchanges hnow) ?_ hfailure
  rw [hserve]
  have hmeasured : millisBetween s.now (run s).2.now = .ok elapsed := by
    rw [hidle.now]
    exact helapsed
  exact service.audited_stopped offer subject correlation run s hmeasured hstop

/-- An answer shows the fingerprint that comes with it. -/
theorem sqlHash_of_succeeds (ready : service.Ready s.now) (h : request.Posts topic document)
    (hserve : service.serve request s = service.audited offer subject correlation run s)
    {hashOf : α → String} {hash : String}
    (hoffer : ∀ answer, (Outgoing.ofDocument 200
      (service.answerDocument (offer.toDocument answer))).sqlHash? = some (hashOf answer))
    (hhash : ∀ answer, (run s).1 = .ok answer → hashOf answer = hash)
    (hsucceeds : (service.answer request s).1.Succeeds) :
    (service.answer request s).1.sqlHash? = some hash := by
  obtain ⟨version, hversion, hoctets⟩ := ready.version
  obtain ⟨limit, hlimit, hbegins, -⟩ := ready.limit
  rcases (answer_of_posts (s := s) hlimit hbegins hversion hoctets h).2.2 with
    (⟨-, hmembers⟩ | ⟨response, hresponse, hmembers⟩) | ⟨-, hmembers⟩
  · exact absurd ((Outgoing.succeeds_congr hmembers).mp hsucceeds)
      service.not_succeeds_faultResponse
  · have hfailed : ∀ failure, Served.ofResponse (service.failureResponse failure) =
        .response response → False := by
      intro failure hfailure
      rw [ofResponse_eq hfailure] at hmembers
      exact service.not_succeeds_failureResponse failure
        ((Outgoing.succeeds_congr hmembers).mp hsucceeds)
    rw [hserve] at hresponse
    rcases service.audited_cases offer subject correlation run s with
      heq | ⟨stop, -, heq⟩ | ⟨message, heq⟩ | ⟨answer, hanswer, heq⟩
    · rw [heq] at hresponse
      cases hresponse
    · rw [heq] at hresponse
      exact (hfailed _ hresponse).elim
    · rw [heq] at hresponse
      exact (hfailed _ hresponse).elim
    · rw [heq] at hresponse
      rw [Outgoing.sqlHash_congr hmembers, ofResponse_eq hresponse, hoffer answer,
        hhash answer hanswer]
  · exact absurd ((Outgoing.succeeds_congr hmembers).mp hsucceeds)
      (service.not_succeeds_failureResponse .requestTimeout)

end

/-! ### Demands that are met -/

/-- A demand that is met by the submission of a statement: it is sent first, nothing after it has a
body, and an answer shows its fingerprint. -/
structure Delivered (client : Client τ) (sql : String) (url : Url) (s : Session τ)
    (done : Outgoing × Session τ) : Prop where
  submitted : s.Submitted (client.order sql) url done.2
  answered : done.1.Succeeds → ∃ hash, Sql.fingerprint sql = .ok hash ∧
    done.1.sqlHash? = some hash

/-- **How a demand is met** under settings. -/
def Meets (service : Service τ) (settings : Settings τ) (s : Session τ)
    (done : Outgoing × Session τ) : Demand → Prop
  | .ping received =>
    ((service.pingDocument received).height ≤ maxHeight →
      s.Idle done.2 ∧ .object done.1.members = (service.pingDocument received).finite) ∧
    (¬ (service.pingDocument received).height ≤ maxHeight → Withheld .internal s done)
  | .refused => Withheld .invalidRequest s done
  | .statement compiled =>
    (settings.Unconfigured → Withheld .configuration s done) ∧
    (¬ settings.Unconfigured →
      (∀ fault, settings.client.submitUrl = .error fault → Withheld .internal s done) ∧
      ∀ url, settings.client.submitUrl = .ok url →
        Delivered settings.client compiled.text url s done)

/-- The service that settings describe, with steps for each execution. -/
def ofSteps (settings : Settings τ) (errorId today : String) (steps : Nat) : Service τ :=
  (ofSettings settings errorId today).granting (steps + 1)

section

variable {settings : Settings τ} {errorId today : String} {steps : Nat} {request : Incoming}
  {topic : Topic} {document : Document} {s : Session τ}

omit [DecidableLE τ] in
theorem ready_ofSettings (hplain : settings.Plain) (htimely : settings.Timely s.now)
    (herrorId : isWhole errorId = true) (htoday : isWhole today = true) :
    (ofSteps settings errorId today steps).Ready s.now :=
  ⟨⟨settings.apiVersion, rfl, hplain.version⟩, herrorId, htoday,
    ⟨settings.requestTimeout, rfl, htimely.begins, htimely.passes⟩, htimely.measured⟩

/-- An execution by the engine that settings describe is one by their client. -/
theorem execute_ofSteps {terms : Terms τ} {deadline : τ} (hterms : terms.deadline = .ok deadline)
    (sql : String) (correlation : Option String) (begun : Session τ) :
    (ofSteps settings errorId today steps).engine.execute terms sql correlation begun =
      settings.client.execute (steps + 1) ⟨sql, terms.interval, deadline, correlation⟩ begun :=
  Engine.execute_eq_client _ rfl hterms sql correlation begun

/-- A statement that was compiled is executed as the settings allow. -/
theorem meets_carried {α : Type} {offer : Offer α} {subject : String}
    {correlation : Option String} {run : Session τ → Except Stop α × Session τ}
    {hashOf : α → String} {terms : Terms τ} {deadline : τ} {compiled : Sql.Statement}
    {hash : String} {begun : Session τ}
    (ready : (ofSteps settings errorId today steps).Ready s.now) (hplain : settings.Plain)
    (h : request.Posts topic document)
    (hserve : (ofSteps settings errorId today steps).serve request s =
      (ofSteps settings errorId today steps).audited offer subject correlation run s)
    (hoffer : ∀ answer, (Outgoing.ofDocument 200 ((ofSteps settings errorId today
      steps).answerDocument (offer.toDocument answer))).sqlHash? = some (hashOf answer))
    (hterms : terms.deadline = .ok deadline)
    (htime : ¬ (settings.client.limitAt (some (s.now + deadline)) s.now).1 ≤ 0)
    (hwhole : isWhole compiled.text = true)
    (hhash : Sql.fingerprint compiled.text = .ok hash) (hnow : begun.now = s.now)
    (hexchanges : begun.exchanges = s.exchanges)
    (carried : Engine.Carried ((ofSteps settings errorId today steps).engine.execute terms
      compiled.text correlation begun) hashOf hash (run s)) :
    Meets (ofSteps settings errorId today steps) settings s
      ((ofSteps settings errorId today steps).answer request s) (.statement compiled) := by
  have hspent : ¬ settings.client.Spent ⟨compiled.text, terms.interval, deadline, correlation⟩
      begun := by
    unfold Client.Spent
    rw [hnow]
    exact htime
  rw [execute_ofSteps hterms] at carried
  refine ⟨fun hmissing => ?_, fun hpresent => ?_⟩
  · -- Nothing is executed, and the missing part is told.
    cases hconf : settings.client.checkConfigured with
    | ok => exact absurd hmissing (settings.checkConfigured_eq_ok.mp hconf)
    | error failure =>
      rw [Client.execute_unconfigured hconf] at carried
      have hidle : s.Idle (run s).2 :=
        .of_eq (carried.exchanges.trans hexchanges) (carried.now.trans hnow)
      rw [Client.checkConfigured_eq_error hconf] at carried
      exact withheld_of_stopped ready h hserve hidle (carried.kept _ rfl)
        (.inl (Failure.whole_notConfigured _ _ _))
  · have hconf := settings.checkConfigured_eq_ok.mpr hpresent
    have hbody : (Warehouse.Errand.submit (settings.client.order compiled.text)).checkBody =
        .ok () := Client.checkBody_submit rfl rfl hplain.warehouseId hplain.waitTimeout hwhole
    refine ⟨fun fault hfault => ?_, fun url hurl => ?_⟩
    · obtain ⟨hstop, hidle⟩ := Client.execute_unreached hconf hspent hbody hfault steps
      have hbegun : s.Idle (run s).2 := by
        obtain ⟨⟨xs, hmade, hsent⟩, hended⟩ := hidle
        exact ⟨⟨xs, by rw [carried.exchanges, hmade, hexchanges], hsent⟩,
          by rw [carried.now, hended, hnow]⟩
      exact withheld_of_stopped ready h hserve hbegun (carried.kept _ hstop) (.inr rfl)
    · have hsubmitted := Client.execute_submission hconf hspent hbody hurl steps
      have hended : ((ofSteps settings errorId today steps).answer request s).2.exchanges =
          (run s).2.exchanges := by
        rw [exchanges_of_posts ready h, hserve, (audited_session _ _ _ _ _ s).2]
      exact ⟨hsubmitted.congr hexchanges (hended.trans carried.exchanges), fun hsucceeds =>
        ⟨hash, hhash, sqlHash_of_succeeds ready h hserve hoffer carried.hash hsucceeds⟩⟩

/-- A request for an answer is met as its statement demands. -/
theorem meets_answered {α : Type} {offer : Offer α} {subject : String}
    {correlation : Option String} {run : Session τ → Except Stop α × Session τ}
    {hashOf : α → String} {terms : Terms τ} {deadline : τ}
    {statement : Except Failure Sql.Statement}
    (ready : (ofSteps settings errorId today steps).Ready s.now) (hplain : settings.Plain)
    (h : request.Posts topic document)
    (hserve : (ofSteps settings errorId today steps).serve request s =
      (ofSteps settings errorId today steps).audited offer subject correlation run s)
    (hoffer : ∀ answer, (Outgoing.ofDocument 200 ((ofSteps settings errorId today
      steps).answerDocument (offer.toDocument answer))).sqlHash? = some (hashOf answer))
    (hterms : terms.deadline = .ok deadline)
    (htime : ¬ (settings.client.limitAt (some (s.now + deadline)) s.now).1 ≤ 0)
    (hfailure : ∀ failure, statement = .error failure →
      failure.Whole ∧ failure.kind = .invalidRequest)
    (hwhole : ∀ compiled, statement = .ok compiled → isWhole compiled.text = true)
    (hanswered : (ofSteps settings errorId today steps).engine.Answered terms correlation hashOf s
      (statement.mapError .failure) (run s)) :
    Meets (ofSteps settings errorId today steps) settings s
      ((ofSteps settings errorId today steps).answer request s) (.ofStatement statement) := by
  cases hanswered with
  | refused refusal nothing =>
    cases statement with
    | ok compiled => cases refusal
    | error failure =>
      cases refusal
      obtain ⟨htold, hkind⟩ := hfailure failure rfl
      have hidle : s.Idle (run s).2 := by
        rw [nothing]
        exact .of_eq rfl rfl
      have hwithheld := withheld_of_stopped ready h hserve hidle
        (congrArg Prod.fst nothing) (.inl htold)
      have hsame : ((ofSteps settings errorId today steps).failureOf (.failure failure)).kind =
          .invalidRequest := hkind
      rw [hsame] at hwithheld
      exact hwithheld
  | unwritten written unhashed nothing =>
    obtain ⟨hash, hhash⟩ := Sql.fingerprint_of_whole (hwhole _ (mapError_eq_ok.mp written))
    rw [hhash] at unhashed
    cases unhashed
  | carried written hashed now exchanges carried =>
    have hstatement := mapError_eq_ok.mp written
    rw [hstatement]
    exact meets_carried ready hplain h hserve hoffer hterms htime (hwhole _ hstatement) hashed now
      exchanges carried

theorem withheld_of_faults {service : Service τ} (ready : service.Ready s.now)
    (h : request.Posts topic document) {faults : List FieldFault}
    (hfaults : ∀ fault ∈ faults, fault.Whole)
    (hserve : service.serve request s = service.fail (.malformedRequest faults) s) :
    Withheld .invalidRequest s (service.answer request s) := by
  have hidle : s.Idle (service.serve request s).2 := by
    rw [hserve]
    exact .of_eq rfl rfl
  have hserved : (service.serve request s).1 =
      .ofResponse (service.failureResponse (.malformedRequest faults)) := by
    rw [hserve, fail_response]
  exact withheld_of_failure ready h hidle hserved (.inl (Failure.whole_malformedRequest hfaults))

theorem withheld_of_refusal {service : Service τ} (ready : service.Ready s.now)
    (h : request.Posts topic document) {refusal : PayloadRefusal}
    (hpayload : payloadOf document = .error refusal)
    (hserve : service.serve request s = (.response (service.refusePayload refusal), s)) :
    Withheld .invalidRequest s (service.answer request s) := by
  have hidle : s.Idle (service.serve request s).2 := by
    rw [hserve]
    exact .of_eq rfl rfl
  have hserved : (service.serve request s).1 = .response (service.refusePayload .notObject) := by
    rw [hserve, payloadOf_eq_error hpayload]
  exact withheld_of_response ready h hidle hserved (errorKind_failureResponse _ _)

/-- A payload that asks for nothing but a sign of life is sent back. -/
theorem meets_ping (ready : (ofSteps settings errorId today steps).Ready s.now)
    (h : request.Posts topic document) {payload : Members} (hpayload : payload.Whole)
    (hserve : (ofSteps settings errorId today steps).serve request s =
      ((ofSteps settings errorId today steps).servePing payload, s)) :
    Meets (ofSteps settings errorId today steps) settings s
      ((ofSteps settings errorId today steps).answer request s) (.ping payload) := by
  have hidle : s.Idle ((ofSteps settings errorId today steps).serve request s).2 := by
    rw [hserve]
    exact .of_eq rfl rfl
  have hserved : ((ofSteps settings errorId today steps).serve request s).1 =
      (ofSteps settings errorId today steps).servePing payload := by
    rw [hserve]
  refine ⟨fun hheight => ?_, fun hheight => ?_⟩
  · obtain ⟨version, hversion, hoctets⟩ := ready.version
    obtain ⟨hidle, htold⟩ := tells_of_idle ready h hidle
    refine ⟨hidle, ?_⟩
    rw [hserved, servePing_response hversion (isWhole_of_octets hoctets) ready.today hpayload
      hheight] at htold
    rcases htold with ⟨hfault, -⟩ | ⟨response, hresponse, hmembers⟩
    · cases hfault
    · cases hresponse
      rw [hmembers]
      rfl
  · exact withheld_of_unhandled ready h hidle (hserved.trans (servePing_unhandled hheight))

theorem meets_kpi (ready : (ofSteps settings errorId today steps).Ready s.now)
    (hplain : settings.Plain) (htimely : settings.Timely s.now) (h : request.Posts topic document)
    {correlation : Option String} {payload : Members} (hpayload : payload.Whole)
    (hserve : (ofSteps settings errorId today steps).serve request s =
      (ofSteps settings errorId today steps).serveQuery correlation payload s) :
    Meets (ofSteps settings errorId today steps) settings s
      ((ofSteps settings errorId today steps).answer request s)
      (settings.demandOf payload .kpi) := by
  unfold serveQuery at hserve
  split at hserve
  · rename_i hping
    rw [settings.demandOf_ping hping]
    exact meets_ping ready h hpayload hserve
  · rename_i hother
    rw [fromPayload_object] at hserve
    rw [settings.demandOf_kpi hother]
    cases hrequest : KpiRequest.ofDocument (.object payload) with
    | error faults =>
      rw [hrequest] at hserve
      exact withheld_of_faults ready h (KpiRequest.faults_whole _ faults hrequest) hserve
    | ok query =>
      rw [hrequest] at hserve
      have hwhole := KpiRequest.whole_of_ofDocument hpayload hrequest
      exact meets_answered ready hplain h hserve (fun answer => rfl) rfl htimely.kpi
        (fun failure hfailure => hwhole.refusal hfailure)
        (fun compiled hcompiled => KpiRequest.whole_statement hwhole hplain.whole_excluded
          hcompiled)
        (Engine.answerKpi_answered _ query correlation s)

theorem meets_options (ready : (ofSteps settings errorId today steps).Ready s.now)
    (hplain : settings.Plain) (htimely : settings.Timely s.now) (h : request.Posts topic document)
    {correlation : Option String} {payload : Members} (hpayload : payload.Whole)
    (hserve : (ofSteps settings errorId today steps).serve request s =
      (ofSteps settings errorId today steps).serveFilters correlation payload s) :
    Meets (ofSteps settings errorId today steps) settings s
      ((ofSteps settings errorId today steps).answer request s)
      (settings.demandOf payload .options) := by
  have hread : fromPayload OptionsRequest.ofDocument (.object payload) =
      (OptionsRequest.ofDocument (.object payload)).mapError .malformedRequest :=
    fromPayload_object OptionsRequest.ofDocument payload
  unfold serveFilters at hserve
  rw [hread] at hserve
  dsimp only [Settings.demandOf]
  cases hrequest : OptionsRequest.ofDocument (.object payload) with
  | error faults =>
    rw [hrequest] at hserve
    exact withheld_of_faults ready h (OptionsRequest.faults_whole _ faults hrequest) hserve
  | ok query =>
    rw [hrequest] at hserve
    have hwhole := OptionsRequest.whole_of_ofDocument hpayload hrequest
    exact meets_answered ready hplain h hserve (fun answer => rfl) rfl htimely.options
      (fun failure hfailure => hwhole.refusal hfailure)
      (fun compiled hcompiled => OptionsRequest.whole_statement hwhole hcompiled)
      (Engine.answerOptions_answered _ query correlation s)

end

/-- A list within a list, so many times. -/
def nested : Nat → Document
  | 0 => .list []
  | depth + 1 => .list [nested depth]

/-- A request for the volume of the catalog. -/
def volumeRequest : Incoming :=
  ⟨"POST", "/api/query", [], .document (.object [("kpi", .str "volume")])⟩

theorem posts_volumeRequest :
    volumeRequest.Posts .kpi (.object [("kpi", .str "volume")]) := ⟨rfl, by decide +kernel, rfl⟩

theorem exists_demandOf_volume {σ : Type} (settings : Settings σ) :
    ∃ compiled, settings.demandOf [("kpi", .str "volume")] .kpi = .statement compiled := by
  let request : KpiRequest := ⟨false, "volume", .time, .yearToDate, none, .none⟩
  have hread : KpiRequest.ofDocument (.object [("kpi", .str "volume")]) = .ok request :=
    toOption_eq_some.mp (by decide +kernel)
  have hfound : request.kpi ∈ kpiNames := by decide
  obtain ⟨compiled, hcompiled⟩ := (@KpiRequest.exists_statement_iff request settings.space
    settings.kpiRowLimit settings.excluded).mpr hfound
  refine ⟨compiled, ?_⟩
  have hother : Members.get? [("kpi", .str "volume")] "ping" = none := by decide
  rw [settings.demandOf_kpi (by rw [hother]; nofun), hread]
  exact congrArg Demand.ofStatement hcompiled

/-- Nothing is sent for the volume if the submission has no address. -/
theorem sent_volumeRequest {settings : Settings τ} {errorId today : String} {steps : Nat}
    {s : Session τ} (hplain : settings.Plain) (htimely : settings.Timely s.now)
    (herrorId : isWhole errorId = true) (htoday : isWhole today = true)
    (hpresent : ¬ settings.Unconfigured) (hfault : errorOf? settings.client.submitUrl ≠ none) :
    ∃ xs, ((ofSteps settings errorId today steps).answer volumeRequest s).2.exchanges =
      s.exchanges ++ xs ∧ Warehouse.sent xs = [] := by
  have ready : (ofSteps settings errorId today steps).Ready s.now :=
    ready_ofSettings hplain htimely herrorId htoday
  have hpayload : Members.Whole [("kpi", .str "volume")] :=
    Members.whole_cons.mpr ⟨by decide, Document.whole_str.mpr (by decide), Members.whole_nil⟩
  have hserve := (ofSteps settings errorId today steps).serve_of_posts posts_volumeRequest s
  unfold serveTopic at hserve
  dsimp only [payloadOf, Option.getD] at hserve
  have hmeets := meets_kpi ready hplain htimely posts_volumeRequest hpayload hserve
  obtain ⟨compiled, hcompiled⟩ := exists_demandOf_volume settings
  obtain ⟨fault, hfault⟩ := Option.ne_none_iff_exists'.mp hfault
  rw [hcompiled] at hmeets
  exact ((hmeets.2 hpresent).1 fault (errorOf?_eq_some.mp hfault)).idle.1

theorem plain_exactSettings : Warehouse.exactSettings.Plain := by
  have hversion : (Warehouse.exactSettings.apiVersion.toList.all fun c => c.toNat < 0x100) = true :=
    by decide
  exact ⟨fun c hc => of_decide_eq_true (List.all_eq_true.mp hversion c hc), by decide, by decide,
    by decide⟩

theorem timely_exactSettings : Warehouse.exactSettings.Timely Warehouse.pendingSession.now :=
  have hmillis : Timeline.millis (0 : Rat) = .ok 0 := toOption_eq_some.mp (by decide +kernel)
  Settings.timely_of_exact (by decide +kernel) (by decide +kernel) (by decide +kernel)
    (by decide +kernel) hmillis _

end Service

end Web

end Indicator
