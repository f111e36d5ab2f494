import Indicator.Engine
import Indicator.Proofs.Warehouse.Course
import Indicator.Proofs.Warehouse.Exact

/-!
# Discretion

The statement and the token do not show in what an execution does and tells, apart from the requests
themselves and from the rejection of the statement, where errors may show it.

* `Exchange.redact`, `Session.Matches`: sessions that are the same but for statements and
  credentials.
* `Retells`: rejections of a submission that differ in the statement only.
* `Execution.retold`: the same execution of another statement under another token.
* `Alike.step`, `Alike.run`: the two go on side by side.
* `Client.execute_retold`, `Client.execute_of_writable`: they end alike, and a result is the same.
* `Client.execute_discreet`: **two executions that differ in statement and token are told apart by
  nothing else.**
* `Client.execute_unwritable`: a statement that cannot be written is told apart.
-/

namespace Indicator.Warehouse

open Json (Document Members)

variable {τ : Type}

/-! ### What is kept back -/

/-- A request without the statement that it submits. -/
def Errand.redact : Errand → Errand
  | .submit order => .submit { order with statement := "" }
  | errand => errand

/-- An exchange without the statement and the credential. -/
def Exchange.redact (x : Exchange τ) : Exchange τ :=
  { x with errand := x.errand.redact, authorization := "" }

/-- **Sessions that match**: but for statements and credentials they are the same. -/
structure Session.Matches (s s' : Session τ) : Prop where
  now : s'.now = s.now
  script : s'.script = s.script
  log : s'.log = s.log
  exchanges : s'.exchanges.map Exchange.redact = s.exchanges.map Exchange.redact

/-- **Rejections that tell their statement**, one `a` and the other `b`, and are the same apart from
that. They come of the submission. -/
inductive Retells (a b : String) : Failure → Failure → Prop
  | refused {status : Int} {message : String} (low : 400 ≤ status) (high : status < 500)
      (other : status ≠ 429) : Retells a b (.refused .submit status message (some a))
        (.refused .submit status message (some b))
  | rejected {ending : Ending} : Retells a b (.rejected ending (some a)) (.rejected ending (some b))

/-- The statement is the last of the details, and nothing else is different. -/
theorem Retells.differ {a b : String} {failure failure' : Failure}
    (h : Retells a b failure failure') :
    failure.kind = .remoteRejected ∧ failure'.kind = .remoteRejected ∧
      failure'.message = failure.message ∧
      ∃ details, failure.details = details ++ [("statement", .str a)] ∧
        failure'.details = details ++ [("statement", .str b)] := by
  cases h with
  | @refused status message low high other =>
    have hserver : ¬ (500 ≤ status ∨ status = 429) := by omega
    exact ⟨if_neg hserver, if_neg hserver, rfl, _, rfl, rfl⟩
  | rejected => exact ⟨rfl, rfl, rfl, _, rfl, rfl⟩

/-! ### Requests -/

namespace Errand

variable {errand errand' : Errand}

theorem link_redact (errand : Errand) : errand.redact.link = errand.link := by
  cases errand <;> rfl

theorem method_redact (errand : Errand) : errand.redact.method = errand.method := by
  cases errand <;> rfl

theorem link_eq_of_redact (h : errand'.redact = errand.redact) : errand'.link = errand.link := by
  rw [← link_redact errand', h, link_redact]

theorem method_eq_of_redact (h : errand'.redact = errand.redact) :
    errand'.method = errand.method := by
  rw [← method_redact errand', h, method_redact]

end Errand

namespace Exchange

variable {x x' : Exchange τ}

theorem endedAt_eq_of_redact (h : x'.redact = x.redact) : x'.endedAt = x.endedAt := by
  have hredact : x'.redact.endedAt = x.redact.endedAt := by rw [h]
  exact hredact

theorem startedAt_eq_of_redact (h : x'.redact = x.redact) : x'.startedAt = x.startedAt := by
  have hredact : x'.redact.startedAt = x.redact.startedAt := by rw [h]
  exact hredact

theorem answer_eq_of_redact (h : x'.redact = x.redact) : x'.answer = x.answer := by
  have hredact : x'.redact.answer = x.redact.answer := by rw [h]
  exact hredact

theorem link_eq_of_redact (h : x'.redact = x.redact) : x'.errand.link = x.errand.link := by
  have hredact : x'.redact.errand = x.redact.errand := by rw [h]
  exact Errand.link_eq_of_redact hredact

end Exchange

/-- The body of a submission holds no lone surrogate and no character that stands for one, so that it
can be written in UTF-8. -/
def Order.Writable (order : Order) : Prop := Text.isWhole order.toDocument.write

instance (order : Order) : Decidable order.Writable := inferInstanceAs (Decidable (_ = _))

/-- The statement does not decide whether the body of a submission that can be written is. -/
theorem Order.checkBody_eq {order : Order} {statement : String} (h : order.Writable)
    (h' : ({ order with statement } : Order).Writable) :
    (Errand.submit { order with statement }).checkBody = (Errand.submit order).checkBody := by
  have hcheck : ∀ text, Text.isWhole text → Text.Encoding.utf8.check text = .ok text := by
    intro text htext
    exact if_pos htext
  simp only [Errand.checkBody, Errand.body?, hcheck _ h, hcheck _ h']
  rfl

theorem Script.next_of_redact {errand errand' : Errand} (script : Script τ)
    (h : errand'.redact = errand.redact) (url : Web.Url) :
    script.next errand' url = script.next errand url := by
  unfold Script.next isCancel
  rw [Errand.method_eq_of_redact h]

namespace Session

variable [Zero τ] [Add τ] [LT τ] [LE τ] [DecidableLT τ] [DecidableLE τ] {s s' : Session τ}
  {connection : Connection} {limit : τ} {errand errand' : Errand} {x x' : Exchange τ}
  {script : Script τ}

omit [Zero τ] [Add τ] [LT τ] [LE τ] [DecidableLT τ] [DecidableLE τ] in
theorem address_of_redact (connection : Connection) (authorization : String)
    (herrand : errand'.redact = errand.redact) (hbody : errand'.checkBody = errand.checkBody) :
    address { connection with authorization } errand' = address connection errand := by
  unfold address
  rw [Errand.link_eq_of_redact herrand, hbody]

/-- **A request goes the same way** for another statement and another credential. -/
theorem Matches.exchange (h : s.Matches s') (authorization : String)
    (herrand : errand'.redact = errand.redact) (hbody : errand'.checkBody = errand.checkBody)
    (made : s.exchange connection limit errand = (x, script)) :
    ∃ x', s'.exchange { connection with authorization } limit errand' = (x', script) ∧
      x'.redact = x.redact := by
  have haddress := address_of_redact connection authorization herrand hbody
  rcases exchange_cases made with ⟨hlimit, rfl, rfl⟩ | ⟨hlimit, fault, hfault, rfl, rfl⟩ |
    ⟨hlimit, url, hurl, rfl, rfl⟩
  · rw [exchange_late hlimit, h.script]
    refine ⟨_, rfl, ?_⟩
    simp only [Exchange.redact, unsent, herrand, h.now]
  · rw [exchange_unwritten hlimit (haddress.trans hfault), h.script]
    refine ⟨_, rfl, ?_⟩
    simp only [Exchange.redact, unsent, herrand, h.now]
  · rw [exchange_sent hlimit (haddress.trans hurl), h.script]
    simp only [Script.next_of_redact _ herrand]
    refine ⟨_, rfl, ?_⟩
    simp only [Exchange.redact, herrand, h.now]

omit [Zero τ] [Add τ] [LT τ] [LE τ] [DecidableLT τ] [DecidableLE τ] in
theorem Matches.after (h : s.Matches s') (hx : x'.redact = x.redact) (script : Script τ) :
    (s.after x script).Matches (s'.after x' script) where
  now := Exchange.endedAt_eq_of_redact hx
  script := rfl
  log := h.log
  exchanges := by
    simp only [Session.after, List.map_append, List.map_singleton, h.exchanges, hx]

omit [Zero τ] [Add τ] [LT τ] [LE τ] [DecidableLT τ] [DecidableLE τ] in
theorem Matches.noteAll (h : s.Matches s') (correlation : Option String) (events : List Event) :
    (s.noteAll correlation events).Matches (s'.noteAll correlation events) where
  now := h.now
  script := h.script
  log := by simp only [Session.noteAll, h.log]
  exchanges := h.exchanges

omit [LE τ] [DecidableLE τ] in
theorem Matches.pause (h : s.Matches s') (duration : τ) :
    (s.pause duration).Matches (s'.pause duration) := by
  unfold Session.pause
  split
  · exact ⟨congrArg (· + duration) h.now, h.script, h.log, h.exchanges⟩
  · exact h

end Session

/-! ### Executions side by side -/

/-- Errors show every statement, or none. -/
theorem Client.shown_cases (client : Client τ) :
    (∀ text, client.shown text = none) ∨
      (client.showsStatement = true ∧ ∀ text, client.shown text = some text) := by
  unfold shown
  cases client.showsStatement with
  | false => exact .inl fun _ => rfl
  | true => exact .inr ⟨rfl, fun _ => rfl⟩

section

variable [Zero τ] [Sub τ] [LT τ] [LE τ] [DecidableLT τ] [DecidableLE τ] [Timeline τ]

namespace Execution

/-- The same execution of another statement, under another token. -/
def retold (e : Execution τ) (token authorization statement : String) : Execution τ :=
  ⟨{ e.client with token }, { e.connection with authorization }, { e.job with statement },
    e.deadlineAt⟩

variable {e : Execution τ} {token authorization statement : String} {x x' : Exchange τ}
  {stage : Stage}

omit [LE τ] [DecidableLE τ] in
theorem documentOf_of_redact (hx : x'.redact = x.redact) (phase : Phase) (shown : Option String) :
    (e.retold token authorization statement).client.documentOf (some e.deadlineAt) phase shown x' =
      e.client.documentOf (some e.deadlineAt) phase shown x := by
  unfold Client.documentOf Client.responseOf
  rw [Exchange.answer_eq_of_redact hx, Exchange.startedAt_eq_of_redact hx]
  rfl

/-- A refusal of a submission is the same for every statement, or it tells the statement. -/
theorem accept_shown (response : Response) :
    (∀ shown shown', Client.accept .submit shown response = Client.accept .submit shown' response) ∨
    ∃ message, 400 ≤ response.status ∧ response.status < 500 ∧ response.status ≠ 429 ∧
      ∀ shown, Client.accept .submit shown response =
        .error (.failure (.refused .submit response.status message shown)) := by
  unfold Client.accept
  by_cases hrefused : 400 ≤ response.status
  · simp only [if_pos hrefused]
    cases hmessage : response.message with
    | error fault => exact .inl fun _ _ => rfl
    | ok message =>
      by_cases hserver : (500 ≤ response.status || response.status = 429) = true
      · refine .inl fun _ _ => ?_
        simp only [hserver, if_true]
      · refine .inr ⟨message, hrefused, ?_⟩
        simp only [Bool.or_eq_true, decide_eq_true_eq, not_or, not_le] at hserver
        refine ⟨hserver.1, hserver.2, fun shown => ?_⟩
        simp [hserver.1.not_ge, hserver.2]
  · refine .inl fun _ _ => ?_
    rw [if_neg hrefused, if_neg hrefused]

omit [LE τ] [DecidableLE τ] in
theorem documentOf_shown (x : Exchange τ) :
    (∀ shown shown', e.client.documentOf (some e.deadlineAt) .submit shown x =
      e.client.documentOf (some e.deadlineAt) .submit shown' x) ∨
    ∃ status message, 400 ≤ status ∧ status < 500 ∧ status ≠ 429 ∧
      ∀ shown, e.client.documentOf (some e.deadlineAt) .submit shown x =
        .error (.failure (.refused .submit status message shown)) := by
  unfold Client.documentOf
  cases e.client.responseOf (some e.deadlineAt) .submit x with
  | error stop => exact .inl fun _ _ => rfl
  | ok response =>
    rcases accept_shown response with hsame | ⟨message, hlow, hhigh, hother, hrefused⟩
    · exact .inl hsame
    · exact .inr ⟨response.status, message, hlow, hhigh, hother, hrefused⟩

omit [LE τ] [DecidableLE τ] in
/-- A submission brings the same for every statement, or it is refused with its statement. -/
theorem submitted_retold (hx : x'.redact = x.redact) :
    (e.retold token authorization statement).submitted x' = e.submitted x ∨
      (e.client.showsStatement = true ∧ ∃ failure failure',
        Retells e.job.statement statement failure failure' ∧
        e.submitted x = .error (.failure failure) ∧
        (e.retold token authorization statement).submitted x' = .error (.failure failure')) := by
  have hdocument : (e.retold token authorization statement).submitted x' =
      e.client.documentOf (some e.deadlineAt) .submit (e.client.shown statement) x >>=
        Client.readHandle none :=
    congrArg (· >>= Client.readHandle none) (documentOf_of_redact hx .submit _)
  rw [hdocument, submitted]
  rcases documentOf_shown x with hsame | ⟨status, message, hlow, hhigh, hother, hrefused⟩
  · rw [hsame (e.client.shown statement) (e.client.shown e.job.statement)]
    exact .inl rfl
  · rcases e.client.shown_cases with hnone | ⟨hshows, hshown⟩
    · rw [hnone, hnone]
      exact .inl rfl
    · rw [hshown, hshown, hrefused, hrefused]
      exact .inr ⟨hshows, _, _, .refused hlow hhigh hother, rfl, rfl⟩

omit [LE τ] [DecidableLE τ] in
/-- **What follows the submission** is the same for every statement, or it is a rejection that tells
the statement. -/
theorem react_submitting_retold (hx : x'.redact = x.redact) :
    (e.retold token authorization statement).react x' .submitting = e.react x .submitting ∨
      (e.client.showsStatement = true ∧ ∃ failure failure' events,
        Retells e.job.statement statement failure failure' ∧
        e.react x .submitting = (.fail failure, events) ∧
        (e.retold token authorization statement).react x' .submitting =
          (.fail failure', events)) := by
  simp only [react]
  rcases submitted_retold (e := e) hx with hsame | ⟨hshows, failure, failure', hretells, h, h'⟩
  · rw [hsame]
    cases e.submitted x with
    | error stop => exact .inl rfl
    | ok handle =>
      dsimp only
      by_cases hfailed : handle.state = .failed
      · simp only [if_pos hfailed]
        have hclient : (e.retold token authorization statement).client.shown statement =
            e.client.shown statement := rfl
        have hjob : (e.retold token authorization statement).job.statement = statement := rfl
        rw [hjob, hclient]
        rcases e.client.shown_cases with hnone | ⟨hshows, hshown⟩
        · rw [hnone, hnone]
          exact .inl rfl
        · rw [hshown, hshown]
          exact .inr ⟨hshows, _, _, _, .rejected, rfl, rfl⟩
      · simp only [if_neg hfailed]
        exact .inl trivial
  · rw [h, h']
    exact .inr ⟨hshows, failure, failure', [], hretells, rfl, rfl⟩

omit [LE τ] [DecidableLE τ] in
/-- **What follows a request** does not depend on the statement, but for the submission. -/
theorem react_retold (hx : x'.redact = x.redact) (hstage : stage ≠ .submitting) :
    (e.retold token authorization statement).react x' stage = e.react x stage := by
  have hdocument : ∀ phase shown, (e.retold token authorization statement).client.documentOf
      (some (e.retold token authorization statement).deadlineAt) phase shown x' =
      e.client.documentOf (some e.deadlineAt) phase shown x := documentOf_of_redact hx
  cases stage with
  | submitting => exact absurd rfl hstage
  | asking handle polls => simp only [react, polled, hdocument]
  | expiring handle =>
    simp only [react, Exchange.answer_eq_of_redact hx]
    rfl
  | reading result => simp only [react, hdocument, Exchange.link_eq_of_redact hx]
  | waiting handle polls => rfl
  | finished outcome => rfl

variable [Add τ]

omit [LE τ] [DecidableLE τ] [Timeline τ] in
theorem rest_retold {s s' : Session τ} (h : s.Matches s') :
    ((e.retold token authorization statement).rest s' stage).1 = (e.rest s stage).1 ∧
      (e.rest s stage).2.Matches ((e.retold token authorization statement).rest s' stage).2 := by
  cases stage with
  | waiting handle polls =>
    simp only [rest, h.now]
    by_cases htime : 0 < e.deadlineAt - s.now
    · have htime' : 0 < (e.retold token authorization statement).deadlineAt - s.now := htime
      rw [if_pos htime, if_pos htime']
      dsimp only [retold]
      cases e.job.interval with
      | ok interval => exact ⟨rfl, h.pause _⟩
      | error fault => exact ⟨rfl, h⟩
    · have htime' : ¬ 0 < (e.retold token authorization statement).deadlineAt - s.now := htime
      rw [if_neg htime, if_neg htime']
      exact ⟨rfl, h⟩
  | reading result =>
    simp only [rest]
    split
    · exact ⟨rfl, h⟩
    · exact ⟨rfl, h.noteAll _ [_]⟩
  | submitting => exact ⟨rfl, h⟩
  | asking handle polls => exact ⟨rfl, h⟩
  | expiring handle => exact ⟨rfl, h⟩
  | finished outcome => exact ⟨rfl, h⟩

/-- **States of two executions that are alike**: the same stage, or rejections that differ in the
statement only, in sessions that match. -/
def Alike (e : Execution τ) (statement : String) (state state' : Stage × Session τ) : Prop :=
  state.2.Matches state'.2 ∧
    (state'.1 = state.1 ∨ (e.client.showsStatement = true ∧ ∃ failure failure',
      Retells e.job.statement statement failure failure' ∧ state.1 = .fail failure ∧
        state'.1 = .fail failure'))

omit [Add τ] [Timeline τ] in
theorem asks_retold {now : τ} (hstage : stage ≠ .submitting) :
    (e.retold token authorization statement).asks now stage = e.asks now stage := by
  cases stage with
  | submitting => exact absurd rfl hstage
  | _ => rfl

theorem Alike.submit {s s' : Session τ} (hmatch : s.Matches s')
    (hbody : (Errand.submit (e.client.order statement)).checkBody =
      (Errand.submit (e.client.order e.job.statement)).checkBody) :
    e.Alike statement (e.step (.submitting, s))
      ((e.retold token authorization statement).step (.submitting, s')) := by
  obtain ⟨x, script, made⟩ : ∃ x script, s.exchange e.connection (e.limit s.now)
      (.submit (e.client.order e.job.statement)) = (x, script) := ⟨_, _, rfl⟩
  have herrand : (Errand.submit (e.client.order statement)).redact =
      (Errand.submit (e.client.order e.job.statement)).redact := rfl
  obtain ⟨x', made', hx⟩ := hmatch.exchange authorization herrand hbody made
  have hasks : e.asks s.now .submitting =
      some (e.limit s.now, .submit (e.client.order e.job.statement)) := rfl
  have hasks' : (e.retold token authorization statement).asks s'.now .submitting =
      some (e.limit s.now, .submit (e.client.order statement)) := by
    rw [hmatch.now]
    rfl
  have hafter := hmatch.after hx script
  rw [step_ask hasks made, step_ask hasks' made']
  rcases react_submitting_retold hx with hsame |
    ⟨hshows, failure, failure', events, hretells, hreact, hreact'⟩
  · rw [hsame]
    exact ⟨hafter.noteAll _ _, .inl rfl⟩
  · rw [hreact, hreact']
    exact ⟨hafter.noteAll _ _, .inr ⟨hshows, failure, failure', hretells, rfl, rfl⟩⟩

/-- **A step of two executions that are alike.** -/
theorem Alike.step {state state' : Stage × Session τ}
    (hbody : (Errand.submit (e.client.order statement)).checkBody =
      (Errand.submit (e.client.order e.job.statement)).checkBody)
    (h : e.Alike statement state state') :
    e.Alike statement (e.step state) ((e.retold token authorization statement).step state') := by
  obtain ⟨first, s⟩ := state
  obtain ⟨stage, s'⟩ := state'
  obtain ⟨hmatch, rfl | ⟨hshows, failure, failure', hretells, rfl, rfl⟩⟩ := h
  · by_cases hstage : stage = .submitting
    · rw [hstage]
      exact Alike.submit hmatch hbody
    · have hasks' : (e.retold token authorization statement).asks s'.now stage =
          e.asks s.now stage := by
        rw [hmatch.now]
        exact asks_retold hstage
      cases hasks : e.asks s.now stage with
      | none =>
        rw [step_rest hasks, step_rest (hasks'.trans hasks)]
        obtain ⟨hsame, hrest⟩ := rest_retold (e := e) hmatch
        exact ⟨hrest, .inl hsame⟩
      | some asked =>
        obtain ⟨limit, errand⟩ := asked
        obtain ⟨x, script, made⟩ : ∃ x script, s.exchange e.connection limit errand = (x, script) :=
          ⟨_, _, rfl⟩
        obtain ⟨x', made', hx⟩ := hmatch.exchange authorization rfl rfl made
        rw [step_ask hasks made, step_ask (hasks'.trans hasks) made', react_retold hx hstage]
        exact ⟨(hmatch.after hx script).noteAll _ _, .inl rfl⟩
  · exact ⟨hmatch, .inr ⟨hshows, failure, failure', hretells, rfl, rfl⟩⟩

/-- **Two executions that are alike stay so.** -/
theorem Alike.run {state state' : Stage × Session τ}
    (hbody : (Errand.submit (e.client.order statement)).checkBody =
      (Errand.submit (e.client.order e.job.statement)).checkBody)
    (h : e.Alike statement state state') (steps : Nat) :
    e.Alike statement (e.run steps state)
      ((e.retold token authorization statement).run steps state') := by
  induction steps with
  | zero => exact h
  | succ steps ih =>
    rw [run_succ_last, run_succ_last]
    exact ih.step hbody

end Execution

/-! ### Executions by a client -/

/-- A token that a header can hold. -/
def AsciiToken (token : String) : Prop := token ≠ "" ∧ ∀ c ∈ token.toList, c.toNat < 0x80

-- The characters are those of the list: there are too many to look at each.
instance (token : String) : Decidable (AsciiToken token) :=
  @instDecidableAnd _ _ inferInstance (List.decidableBAll _ _)

omit [Zero τ] [Sub τ] [LT τ] [LE τ] [DecidableLT τ] [DecidableLE τ] [Timeline τ] in
theorem Session.Matches.refl (s : Session τ) : s.Matches s := ⟨rfl, rfl, rfl, rfl⟩

namespace Client

variable {client : Client τ} {token statement : String} {job : Job τ}

omit [Zero τ] [Sub τ] [LT τ] [LE τ] [DecidableLT τ] [DecidableLE τ] [Timeline τ] in
theorem check_credential (h : AsciiToken client.token) :
    Text.Encoding.ascii.check client.credential = .ok client.credential := by
  have hchars : ∀ c ∈ client.credential.toList, Text.Encoding.ascii.holds c = true := by
    rw [credential, String.toList_append, List.forall_mem_append]
    exact ⟨List.all_eq_true.mp (by decide), fun c hc => decide_eq_true (h.2 c hc)⟩
  exact if_pos (List.all_eq_true.mpr hchars)

omit [Zero τ] [Sub τ] [LT τ] [LE τ] [DecidableLT τ] [DecidableLE τ] [Timeline τ] in
theorem connect_of_token (h : AsciiToken client.token) :
    client.connect = ((Web.Url.parseBase (normalHost client.host)).mapError .badUrl).map
      fun base => ⟨base, client.credential⟩ := by
  unfold connect
  rw [check_credential h]
  cases Web.Url.parseBase (normalHost client.host) <;> rfl

omit [Zero τ] [Sub τ] [LT τ] [LE τ] [DecidableLT τ] [DecidableLE τ] [Timeline τ] in
theorem checkConfigured_of_token (h : client.token ≠ "") (h' : token ≠ "") :
    Client.checkConfigured { client with token } = client.checkConfigured := by
  simp only [checkConfigured, h, h', ne_eq, not_false_eq_true, decide_true]

variable [Add τ]

/-- **Two executions of different statements under different tokens** end in sessions that match,
with the same outcome or, where errors show it, with rejections that tell the statement. -/
theorem execute_retold (s : Session τ) (patience : Nat) (htoken : AsciiToken client.token)
    (htoken' : AsciiToken token) (hbody : (client.order job.statement).Writable)
    (hbody' : (client.order statement).Writable) :
    (client.execute patience job s).2.Matches
      (Client.execute { client with token } patience { job with statement } s).2 ∧
    ((Client.execute { client with token } patience { job with statement } s).1 =
        (client.execute patience job s).1 ∨
      (client.showsStatement = true ∧ ∃ failure failure',
        Retells job.statement statement failure failure' ∧
        (client.execute patience job s).1 = .error (.failure failure) ∧
        (Client.execute { client with token } patience { job with statement } s).1 =
          .error (.failure failure'))) := by
  have hconfigured : Client.checkConfigured { client with token } = client.checkConfigured :=
    checkConfigured_of_token htoken.1 htoken'.1
  have hconnect := connect_of_token htoken
  have hconnect' : Client.connect { client with token } = _ := connect_of_token htoken'
  cases hconf : client.checkConfigured with
  | error failure =>
    rw [execute_unconfigured hconf, execute_unconfigured (hconfigured.trans hconf)]
    exact ⟨.refl s, .inl rfl⟩
  | ok =>
    cases hbase : Web.Url.parseBase (normalHost client.host) with
    | error what =>
      rw [hbase] at hconnect hconnect'
      rw [execute_unconnected hconf hconnect,
        execute_unconnected (hconfigured.trans hconf) hconnect']
      exact ⟨.refl s, .inl rfl⟩
    | ok base =>
      rw [hbase] at hconnect hconnect'
      rw [execute_connected hconf hconnect,
        execute_connected (hconfigured.trans hconf) hconnect']
      have hstart : (client.execution ⟨base, client.credential⟩ job s).Alike statement
          (.submitting, s) (.submitting, s) := ⟨.refl s, .inl rfl⟩
      have hcheck : (Errand.submit (client.order statement)).checkBody =
          (Errand.submit (client.order job.statement)).checkBody :=
        Order.checkBody_eq hbody hbody'
      have hrun : (client.execution ⟨base, client.credential⟩ job s).Alike statement
          ((client.execution ⟨base, client.credential⟩ job s).run patience (.submitting, s))
          ((Client.execution { client with token } ⟨base, Client.credential { client with token }⟩
            { job with statement } s).run patience (.submitting, s)) :=
        hstart.run hcheck patience
      obtain ⟨hmatch, hsame | ⟨hshows, failure, failure', hretells, h, h'⟩⟩ := hrun
      · rw [hsame]
        exact ⟨hmatch, .inl rfl⟩
      · rw [h, h']
        exact ⟨hmatch, .inr ⟨hshows, failure, failure', hretells, rfl, rfl⟩⟩

theorem execute_of_writable {s : Session τ} {patience : Nat} (htoken : AsciiToken client.token)
    (hbody : (client.order job.statement).Writable) (hbody' : (client.order statement).Writable)
    {result : Result} (h : (client.execute patience job s).1 = .ok result) :
    (client.execute patience { job with statement } s).1 = .ok result := by
  obtain ⟨-, hsame | ⟨-, failure, -, -, hfailed, -⟩⟩ :=
    execute_retold s patience htoken htoken hbody hbody'
  · exact hsame.trans h
  · rw [h] at hfailed
    cases hfailed

omit [Zero τ] [Sub τ] [LT τ] [LE τ] [DecidableLT τ] [DecidableLE τ] [Timeline τ] [Add τ] in
/-- In production errors do not show the statement. -/
theorem showsStatement_of_production {settings : Settings τ} (h : settings.isProduction = true) :
    settings.client.showsStatement = false := by
  simp only [Settings.client, h, Bool.not_true]

/-- **Two executions that differ in statement and token are told apart by nothing else**, if both
statements can be written. The requests are the same but for the statement and the credential; so
are the log, the clock and the outcome. Only where errors show the statement may the outcomes be
rejections of it that differ in that detail. In production errors do not show it. -/
theorem execute_discreet (s : Session τ) (patience : Nat) (htoken : AsciiToken client.token)
    (htoken' : AsciiToken token) (hbody : (client.order job.statement).Writable)
    (hbody' : (client.order statement).Writable) :
    (client.execute patience job s).2.Matches
      (Client.execute { client with token } patience { job with statement } s).2 ∧
    (client.showsStatement = false →
      (Client.execute { client with token } patience { job with statement } s).1 =
        (client.execute patience job s).1) ∧
    ((Client.execute { client with token } patience { job with statement } s).1 =
        (client.execute patience job s).1 ∨
      ∃ failure failure' details,
        (client.execute patience job s).1 = .error (.failure failure) ∧
        (Client.execute { client with token } patience { job with statement } s).1 =
          .error (.failure failure') ∧
        Retells job.statement statement failure failure' ∧
        failure.kind = .remoteRejected ∧ failure'.kind = .remoteRejected ∧
        failure'.message = failure.message ∧
        failure.details = details ++ [("statement", .str job.statement)] ∧
        failure'.details = details ++ [("statement", .str statement)]) ∧
    ∀ settings : Settings τ, settings.isProduction = true →
      settings.client.showsStatement = false := by
  obtain ⟨hmatch, hsame | ⟨hshows, failure, failure', hretells, h, h'⟩⟩ :=
    execute_retold s patience htoken htoken' hbody hbody'
  · exact ⟨hmatch, fun _ => hsame, .inl hsame, fun _ => showsStatement_of_production⟩
  · obtain ⟨hkind, hkind', hmessage, details, hdetails, hdetails'⟩ := hretells.differ
    refine ⟨hmatch, fun hhides => ?_, .inr ⟨failure, failure', details, h, h', hretells, hkind,
      hkind', hmessage, hdetails, hdetails'⟩, fun _ => showsStatement_of_production⟩
    rw [hhides] at hshows
    cases hshows

end Client

end

/-- A warehouse that rejects a statement. -/
def rejectingSession : Session Rat := exactSession [exactReply 0 .failed]

/-- A warehouse with a result that has no rows. -/
def emptySession : Session Rat := exactSession [exactResult [("row_count", .int 0)]]

/-- A statement with one half of a surrogate pair in a literal. -/
def loneStatement : String := "SELECT '" ++ String.ofList [Text.charOfCode 0xD800] ++ "'"

namespace Client

/-- Two statements that are rejected are told in the details, and nothing else differs. -/
theorem execute_discreet_rejected :
    AsciiToken exactClient.token ∧ AsciiToken "dapi-other" ∧
      (exactClient.order exactJob.statement).Writable ∧ (exactClient.order "SELECT 2").Writable ∧
      (exactClient.execute 1 exactJob rejectingSession).2.Matches
        (Client.execute { exactClient with token := "dapi-other" } 1
          { exactJob with statement := "SELECT 2" } rejectingSession).2 ∧
      ∃ failure failure' details,
        (exactClient.execute 1 exactJob rejectingSession).1 = .error (.failure failure) ∧
        (Client.execute { exactClient with token := "dapi-other" } 1
          { exactJob with statement := "SELECT 2" } rejectingSession).1 =
            .error (.failure failure') ∧
        failure.details = details ++ [("statement", .str "SELECT 1")] ∧
        failure'.details = details ++ [("statement", .str "SELECT 2")] := by
  have htoken : AsciiToken exactClient.token := by decide
  have htoken' : AsciiToken "dapi-other" := by decide
  have hbody : (exactClient.order exactJob.statement).Writable := by decide +kernel
  have hbody' : (exactClient.order "SELECT 2").Writable := by decide +kernel
  obtain ⟨hmatch, -, houtcome, -⟩ :=
    execute_discreet rejectingSession 1 htoken htoken' hbody hbody'
  have hdiffer : errorOf? (Client.execute { exactClient with token := "dapi-other" } 1
        { exactJob with statement := "SELECT 2" } rejectingSession).1 ≠
      errorOf? (exactClient.execute 1 exactJob rejectingSession).1 := by
    decide +kernel
  refine ⟨htoken, htoken', hbody, hbody', hmatch, ?_⟩
  rcases houtcome with hsame | ⟨failure, failure', details, h, h', -, -, -, -, hdetails, hdetails'⟩
  · exact absurd (congrArg errorOf? hsame) hdiffer
  · exact ⟨failure, failure', details, h, h', hdetails, hdetails'⟩

/-- **A statement that cannot be written is told apart**, even if errors do not show it: one with a
lone surrogate ends in a fault where another one has a result, and the fault holds the statement. -/
theorem execute_unwritable :
    (∃ result, (Client.execute { exactClient with showsStatement := false } 2 exactJob
      emptySession).1 = .ok result) ∧
    (Client.execute { exactClient with showsStatement := false } 2
      { exactJob with statement := loneStatement } emptySession).1 =
        .error (.fault (.unencodable
          ⟨.utf8, (exactClient.order loneStatement).toDocument.write⟩)) := by
  obtain ⟨hresult, hfault⟩ : (Client.execute { exactClient with showsStatement := false } 2 exactJob
        emptySession).1.toOption.isSome = true ∧
      errorOf? (Client.execute { exactClient with showsStatement := false } 2
        { exactJob with statement := loneStatement } emptySession).1 =
          some (.fault (.unencodable
            ⟨.utf8, (exactClient.order loneStatement).toDocument.write⟩)) := by
    decide +kernel
  obtain ⟨result, hdone⟩ := Option.isSome_iff_exists.mp hresult
  exact ⟨⟨result, toOption_eq_some.mp hdone⟩, errorOf?_eq_some.mp hfault⟩

end Client

end Indicator.Warehouse
