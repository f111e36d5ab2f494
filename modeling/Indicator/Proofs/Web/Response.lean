import Indicator.Web.Service

/-!
# What a response tells

The members of the document that a response shows, and the kind of error among them. The layers
around an endpoint add headers, but leave the document as it is.

* `Outgoing.errorKind?`: the kind of error that a response tells of.
* `Outgoing.Succeeds`, `Outgoing.sqlHash?`: a response with an answer, and the fingerprint in it.
* `Service.audited_cases`: how a request for an answer ends.
* `Service.answer_cases`, `Service.errorKind_answer`: what is told of a request is what served it,
  told through the layers.
-/

namespace Indicator.Web

open Json (Document Members)
open Warehouse (Session Stop)

namespace Outgoing

/-- The members of the document that a response shows. -/
def members (response : Outgoing) : Members :=
  match response.page with
  | .document (.object members) => members
  | _ => []

/-- The kind of error that a response tells of. -/
def errorKind? (response : Outgoing) : Option String :=
  match Document.member response.members "error" with
  | .object error =>
    match Document.member error "kind" with
    | .str kind => some kind
    | _ => none
  | _ => none

/-- A response with an answer. -/
def Succeeds (response : Outgoing) : Prop := Document.member response.members "ok" = .bool true

/-- The fingerprint of the statement that an answer comes of. -/
def sqlHash? (response : Outgoing) : Option String :=
  match Document.member response.members "result" with
  | .object result =>
    match Document.member result "sqlHash" with
    | .str hash => some hash
    | _ => none
  | _ => none

@[simp] theorem setHeader_members (response : Outgoing) (name value : String) :
    (response.setHeader name value).members = response.members := rfl

@[simp] theorem addHeader_members (response : Outgoing) (name value : String) :
    (response.addHeader name value).members = response.members := by
  unfold addHeader
  split <;> rfl

@[simp] theorem mark_members (origins : Cors.Origins) (origin : String) (response : Outgoing) :
    (Cors.mark origins origin response).members = response.members := rfl

theorem errorKind_congr {first second : Outgoing} (h : first.members = second.members) :
    first.errorKind? = second.errorKind? := by
  rw [errorKind?, errorKind?, h]

theorem succeeds_congr {first second : Outgoing} (h : first.members = second.members) :
    first.Succeeds ↔ second.Succeeds := by
  rw [Succeeds, Succeeds, h]

theorem sqlHash_congr {first second : Outgoing} (h : first.members = second.members) :
    first.sqlHash? = second.sqlHash? := by
  rw [sqlHash?, sqlHash?, h]

@[simp] theorem ofDocument_members (status : Nat) (members : Members) :
    (ofDocument status (.object members)).members = Document.finiteMembers members := rfl

@[simp] theorem errorKind_detail (status : Nat) (text : String) :
    (detail status text).errorKind? = none := by
  rfl

@[simp] theorem errorKind_setHeader (response : Outgoing) (name value : String) :
    (response.setHeader name value).errorKind? = response.errorKind? := rfl

end Outgoing

namespace Service

variable {τ : Type} (service : Service τ)

/-- The service with another count of steps for each execution. -/
def granting (service : Service τ) (patience : Nat) : Service τ :=
  { service with engine := { service.engine with patience } }

@[simp] theorem errorKind_failureResponse (failure : Failure) :
    (service.failureResponse failure).errorKind? = some failure.kind.code := by
  rfl

@[simp] theorem errorKind_faultResponse :
    service.faultResponse.errorKind? = some Kind.internal.code := by
  rfl

@[simp] theorem not_succeeds_failureResponse (failure : Failure) :
    ¬ (service.failureResponse failure).Succeeds := by
  rintro ⟨⟩

@[simp] theorem not_succeeds_faultResponse : ¬ service.faultResponse.Succeeds := by
  rintro ⟨⟩

@[simp] theorem errorKind_healthResponse : service.healthResponse.errorKind? = none := by
  rfl

/-- The version in a header leaves the document as it is. -/
theorem members_of_stamp {served : Served} {response : Outgoing}
    (h : service.stamp served = .response response) :
    ∃ inner, served = .response inner ∧ response.members = inner.members := by
  cases served with
  | unhandled => cases h
  | response inner =>
    refine ⟨inner, rfl, ?_⟩
    simp only [stamp] at h
    split at h
    · split at h
      · cases h
        simp
      · cases h
    · cases h

@[simp] theorem errorKind_answerDocument (status : Nat) (answer : Document) :
    (Outgoing.ofDocument status (service.answerDocument answer)).errorKind? = none := by
  rfl

@[simp] theorem errorKind_pingDocument (status : Nat) (received : Members) :
    (Outgoing.ofDocument status (service.pingDocument received)).errorKind? = none := by
  rfl

@[simp] theorem errorKind_preflight (origins : Cors.Origins) (question : Cors.Question) :
    (Cors.preflight origins question).errorKind? = none := by
  unfold Cors.preflight
  dsimp only
  split <;> rfl

/-- A version of one octet a character can be told in a header. -/
theorem stamp_response {version : String} (hversion : service.version = .str version)
    (hoctets : ∀ c ∈ version.toList, c.toNat < 0x100) (response : Outgoing) :
    ∃ stamped, service.stamp (.response response) = .response stamped ∧
      stamped.members = response.members := by
  have hall : (version.toList.all fun c => decide (c.toNat < 0x100)) = true :=
    List.all_eq_true.mpr fun c hc => decide_eq_true (hoctets c hc)
  refine ⟨(response.setHeader "x-mc-version" version).addHeader "cache-control" "no-store", ?_, by
    simp⟩
  simp only [stamp, hversion, hall, if_true]

theorem ofResponse_eq {response found : Outgoing}
    (h : Served.ofResponse response = .response found) : found = response := by
  unfold Served.ofResponse at h
  split at h
  · cases h
    rfl
  · cases h

@[simp] theorem fail_response (failure : Failure) (s : Session τ) :
    (service.fail failure s).1 = .ofResponse (service.failureResponse failure) := rfl

@[simp] theorem fail_now (failure : Failure) (s : Session τ) :
    (service.fail failure s).2.now = s.now := rfl

@[simp] theorem fail_exchanges (failure : Failure) (s : Session τ) :
    (service.fail failure s).2.exchanges = s.exchanges := rfl

variable [Sub τ] [Timeline τ]

section

variable {α : Type} (offer : Offer α) (subject : String) (correlation : Option String)
  (run : Session τ → Except Stop α × Session τ) (s : Session τ)

/-- The records of a request make no request and take no time. -/
theorem audited_session :
    (service.audited offer subject correlation run s).2.now = (run s).2.now ∧
      (service.audited offer subject correlation run s).2.exchanges = (run s).2.exchanges := by
  unfold audited
  dsimp only
  split
  · exact ⟨rfl, rfl⟩
  · split
    · exact ⟨rfl, rfl⟩
    · split
      · exact ⟨rfl, rfl⟩
      · exact ⟨rfl, rfl⟩

/-- **How a request for an answer ends**: without a response, with a failure or with the answer. -/
theorem audited_cases :
    (service.audited offer subject correlation run s).1 = .unhandled ∨
    (∃ stop, (run s).1 = .error stop ∧
      (service.audited offer subject correlation run s).1 =
        .ofResponse (service.failureResponse (service.failureOf stop))) ∨
    (∃ message, (service.audited offer subject correlation run s).1 =
      .ofResponse (service.failureResponse (.internal message))) ∨
    ∃ answer, (run s).1 = .ok answer ∧
      (service.audited offer subject correlation run s).1 =
        .ofResponse (.ofDocument 200 (service.answerDocument (offer.toDocument answer))) := by
  unfold audited
  dsimp only
  split
  · exact .inl rfl
  · cases hran : (run s).1 with
    | error stop => exact .inr (.inl ⟨stop, rfl, rfl⟩)
    | ok answer =>
      dsimp only
      split
      · split
        · exact .inr (.inr (.inr ⟨answer, rfl, rfl⟩))
        · exact .inl rfl
      · exact .inr (.inr (.inl ⟨_, rfl⟩))

end

/-- A failure is told of, once its time can be measured. -/
theorem audited_stopped {α : Type} (offer : Offer α) (subject : String)
    (correlation : Option String) (run : Session τ → Except Stop α × Session τ) (s : Session τ)
    {elapsed : Int} (helapsed : millisBetween s.now (run s).2.now = .ok elapsed) {stop : Stop}
    (hstop : (run s).1 = .error stop) :
    (service.audited offer subject correlation run s).1 =
      .ofResponse (service.failureResponse (service.failureOf stop)) := by
  unfold audited
  simp only [helapsed, hstop, fail_response]

variable [Zero τ] [Add τ] [LT τ] [LE τ] [DecidableLT τ] [DecidableLE τ]

section

variable {service} {limit : τ} {request : Incoming} {s : Session τ}

/-- A request that took too long is told so, but its work is done. -/
theorem serveInTime_late (hlimit : service.requestLimit = .seconds limit) (hbegins : ¬ limit ≤ 0)
    (hlate : limit ≤ (service.serve request s).2.now - s.now) :
    ∃ ended, service.serveInTime request s =
        (.response (service.failureResponse .requestTimeout), ended) ∧
      ended.now = (service.serve request s).2.now ∧
      ended.exchanges = (service.serve request s).2.exchanges := by
  unfold serveInTime
  rw [hlimit]
  dsimp only
  rw [if_neg hbegins]
  generalize service.serve request s = ran at hlate ⊢
  obtain ⟨served, ended⟩ := ran
  dsimp only at hlate ⊢
  rw [if_pos hlate]
  cases served with
  | unhandled => exact ⟨_, rfl, rfl, rfl⟩
  | response response => exact ⟨_, rfl, rfl, rfl⟩

theorem serveInTime_ended (hlimit : service.requestLimit = .seconds limit) (hbegins : ¬ limit ≤ 0)
    (hlate : ¬ limit ≤ (service.serve request s).2.now - s.now) :
    service.serveInTime request s =
      (service.stamp (service.serve request s).1, (service.serve request s).2) := by
  unfold serveInTime
  rw [hlimit]
  dsimp only
  rw [if_neg hbegins, if_neg hlate]

end

/-- **What a request is told** is what was served in time, or that of a fault. -/
theorem answer_cases {request : Incoming} {s ended : Session τ} {served : Served}
    (hquestion : Cors.question? request = none)
    (hserved : service.serveInTime request s = (served, ended)) :
    (service.answer request s).2.now = ended.now ∧
      (service.answer request s).2.exchanges = ended.exchanges ∧
      ((served = .unhandled ∧
          (service.answer request s).1.members = service.faultResponse.members) ∨
        ∃ response, served = .response response ∧
          (service.answer request s).1.members = response.members) := by
  unfold answer
  rw [hquestion, hserved]
  cases served with
  | unhandled => exact ⟨rfl, rfl, .inl ⟨rfl, rfl⟩⟩
  | response response =>
    dsimp only
    split
    · exact ⟨rfl, rfl, .inr ⟨response, rfl, rfl⟩⟩
    · exact ⟨rfl, rfl, .inr ⟨response, rfl, Outgoing.mark_members _ _ _⟩⟩

/-- **The kind of error that a request is told** has passed the layers unchanged. -/
theorem errorKind_answer {request : Incoming} {s ended : Session τ} {served : Served}
    (hquestion : Cors.question? request = none)
    (hserved : service.serveInTime request s = (service.stamp served, ended)) :
    (service.answer request s).1.errorKind? = some Kind.internal.code ∨
      ∃ response, served = .response response ∧
        (service.answer request s).1.members = response.members := by
  rcases (service.answer_cases hquestion hserved).2.2 with
    ⟨-, hmembers⟩ | ⟨stamped, hstamp, hmembers⟩
  · rw [Outgoing.errorKind_congr hmembers]
    exact .inl service.errorKind_faultResponse
  · obtain ⟨response, hresponse, hinner⟩ := service.members_of_stamp hstamp
    exact .inr ⟨response, hresponse, hmembers.trans hinner⟩

end Service

end Indicator.Web
