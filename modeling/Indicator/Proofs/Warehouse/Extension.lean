import Indicator.Proofs.Warehouse.Deadline
import Indicator.Proofs.Warehouse.Order

/-!
# More time

An execution that was not cut short ends in the same way if it is given more time.

* `Session.exchange_of_le`: a request that was not given up goes the same way under a longer limit.
* `Execution.extended`: the same execution with a later deadline, and requests that may take longer.
* `Timely`: the deadline has not told yet, nor has the time that a request may take if that is to be
  longer. `Timely.of_step`: a state before a timely one is timely.
* `Execution.step_extended`: a step to a timely state is the same with more time.
* `Client.execute_extended`: **so is an execution that ends timely.**
-/

namespace Indicator.Warehouse

variable {τ : Type} [AddCommGroup τ] [LinearOrder τ] [IsOrderedAddMonoid τ]

/-! ### Requests -/

namespace Session

variable {s : Session τ} {connection : Connection} {limit more : τ} {errand : Errand}
  {x : Exchange τ} {script : Script τ}

omit [IsOrderedAddMonoid τ] in
theorem timeTaken_of_le {latency : Option τ} (hle : limit ≤ more)
    (h : (timeTaken limit latency).1 = true) :
    timeTaken more latency = timeTaken limit latency := by
  cases latency with
  | none => rfl
  | some latency =>
    unfold timeTaken at h ⊢
    dsimp only at h ⊢
    by_cases htime : latency < limit
    · rw [if_pos htime, if_pos (htime.trans_le hle)]
    · rw [if_neg htime] at h
      cases h

omit [IsOrderedAddMonoid τ] in
/-- A request that was not given up goes the same way under a longer limit. -/
theorem exchange_of_le (hle : limit ≤ more)
    (h : s.exchange connection limit errand = (x, script)) (hanswer : x.answer ≠ .timedOut) :
    s.exchange connection more errand = (x, script) := by
  rcases exchange_cases h with ⟨-, rfl, -⟩ | ⟨hlimit, fault, haddress, rfl, rfl⟩ |
    ⟨hlimit, url, haddress, rfl, rfl⟩
  · exact absurd rfl hanswer
  · exact exchange_unwritten (fun hmore => hlimit (hle.trans hmore)) haddress
  · have htime : (timeTaken limit (s.script.next errand url).1.latency).1 = true := by
      by_contra hlate
      exact hanswer (if_neg hlate)
    rw [exchange_sent (fun hmore => hlimit (hle.trans hmore)) haddress]
    dsimp only
    rw [timeTaken_of_le hle htime]

end Session

theorem Client.limitAt_of_later {client : Client τ} {deadline later now : τ}
    (hlater : deadline ≤ later) (hfree : (client.limitAt (some deadline) now).2 = false) :
    client.limitAt (some later) now = client.limitAt (some deadline) now := by
  unfold limitAt at hfree ⊢
  dsimp only at hfree ⊢
  rw [later_eq_max] at hfree ⊢
  rw [later_eq_max]
  by_cases hbounded : max 0 (deadline - now) < client.httpTimeout
  · rw [if_pos hbounded] at hfree
    cases hfree
  · have hleft : max 0 (deadline - now) ≤ max 0 (later - now) :=
      max_le_max_left 0 (sub_le_sub_right hlater now)
    rw [if_neg hbounded, if_neg fun h => hbounded (hleft.trans_lt h)]

/-! ### Executions with more time -/

namespace Execution

/-- The same execution with another deadline, and another time that a request may take. -/
def extended (e : Execution τ) (httpTimeout deadline deadlineAt : τ) : Execution τ :=
  ⟨{ e.client with httpTimeout }, e.connection, { e.job with deadline }, deadlineAt⟩

/-- **A timely state**, for executions whose requests are to take `httpTimeout` at most: the
deadline has not passed, and no end is owed to it. If requests are to take longer than they may,
only a result is a timely end. -/
def Timely (e : Execution τ) (httpTimeout : τ) (made : Nat) : Stage × Session τ → Prop
  | (.asking _ _, s) => s.now < e.deadlineAt
  | (.expiring _, _) => False
  | (.finished outcome, s) => ¬ TimedOut outcome ∧ (∀ x ∈ s.exchanges.drop made, ¬ x.Cancels) ∧
      (e.client.httpTimeout < httpTimeout → ∃ result, outcome = .ok result)
  | _ => True

variable {e : Execution τ} {httpTimeout deadline deadlineAt : τ} {stage : Stage} {s : Session τ}
  {x : Exchange τ}

theorem limit_le_extended (hhttp : e.client.httpTimeout ≤ httpTimeout)
    (hlater : e.deadlineAt ≤ deadlineAt) (now : τ) :
    e.limit now ≤ (e.extended httpTimeout deadline deadlineAt).limit now := by
  rw [limit, limit, Client.limitAt_eq_min, Client.limitAt_eq_min]
  exact min_le_min (max_le_max_left 0 (sub_le_sub_right hlater now)) hhttp

omit [AddCommGroup τ] [IsOrderedAddMonoid τ] in
theorem Timely.lt_deadline {made : Nat} {handle : Handle} {polls : Nat}
    (h : e.Timely httpTimeout made (.asking handle polls, s)) : s.now < e.deadlineAt := h

theorem rest_extended {made : Nat} (hlater : e.deadlineAt ≤ deadlineAt)
    (hnext : e.Timely httpTimeout made (e.rest s stage)) :
    (e.extended httpTimeout deadline deadlineAt).rest s stage = e.rest s stage := by
  cases stage with
  | waiting handle polls =>
    simp only [rest] at hnext ⊢
    have hleft : e.deadlineAt - s.now ≤
        (e.extended httpTimeout deadline deadlineAt).deadlineAt - s.now :=
      sub_le_sub_right hlater s.now
    by_cases htime : 0 < e.deadlineAt - s.now
    · rw [if_pos htime] at hnext
      rw [if_pos htime, if_pos (htime.trans_le hleft)]
      dsimp only [extended] at hleft ⊢
      cases hinterval : e.job.interval with
      | error fault => rfl
      | ok interval =>
        rw [hinterval] at hnext
        dsimp only at hnext ⊢
        -- a pause that the deadline ends is not timely
        have hinside : interval ≤ e.deadlineAt - s.now := by
          by_contra hcut
          have hsooner : sooner interval (e.deadlineAt - s.now) = e.deadlineAt - s.now := by
            rw [sooner_eq_min]
            exact min_eq_right (not_le.mp hcut).le
          have hnow := hnext.lt_deadline
          rw [hsooner, Session.pause, if_pos htime] at hnow
          simp at hnow
        rw [sooner_eq_min, sooner_eq_min, min_eq_left hinside, min_eq_left (hinside.trans hleft)]
    · rw [if_neg htime] at hnext
      exact absurd (sub_pos.mpr hnext.lt_deadline) htime
  | _ => rfl

variable [Timeline τ]

omit [IsOrderedAddMonoid τ] in
theorem Timely.of_step {made : Nat} (hmade : made ≤ s.exchanges.length)
    (h : e.Timely httpTimeout made (e.step (stage, s))) : e.Timely httpTimeout made (stage, s) := by
  cases stage with
  | asking handle polls =>
    by_contra hlate
    have hstep : e.step (.asking handle polls, s) = (.expiring handle, s) := by
      simp only [step]
      exact if_pos (not_lt.mp hlate)
    rw [hstep] at h
    exact h
  | expiring handle =>
    have hasks : e.asks s.now (.expiring handle) =
        some (e.client.httpTimeout, .cancel handle.statementId) := rfl
    obtain ⟨x, script, hmade'⟩ : ∃ x script, s.exchange e.connection e.client.httpTimeout
        (.cancel handle.statementId) = (x, script) := ⟨_, _, rfl⟩
    obtain ⟨outcome, hfinished⟩ := e.react_cancel_finished x handle
    rw [step_ask hasks hmade', hfinished] at h
    refine h.2.1 x ?_ ⟨_, Session.errand_of_exchange hmade'⟩
    rw [Session.noteAll_exchanges, Session.after, List.drop_append_of_le_length hmade]
    simp
  | finished outcome => exact h
  | submitting => trivial
  | waiting handle polls => trivial
  | reading result => trivial

/-! ### Steps with more time -/

omit [IsOrderedAddMonoid τ] in
/-- What follows a request that was given up: the deadline has told, or the time that a request
may take. -/
theorem react_of_timedOut {limit : τ} {errand : Errand} (hanswer : x.answer = .timedOut)
    (hasks : e.asks s.now stage = some (limit, errand))
    (hopen : ∀ handle, stage ≠ .expiring handle) :
    ((e.client.limitAt (some e.deadlineAt) x.startedAt).2 = true ∧
      ((∃ handle, (e.react x stage).1 = .expiring handle) ∨
        ∃ phase, (e.react x stage).1 = .fail (.pastDeadline phase))) ∨
    ((e.client.limitAt (some e.deadlineAt) x.startedAt).2 = false ∧
      ∃ phase brief, (e.react x stage).1 = .fail (.timedOut phase brief)) := by
  have hdocument : ∀ phase statement, e.client.documentOf (some e.deadlineAt) phase statement x =
      .error (.failure (if (e.client.limitAt (some e.deadlineAt) x.startedAt).2 then
        .pastDeadline phase else .timedOut phase
          (Timeline.brief (e.client.limitAt (some e.deadlineAt) x.startedAt).1))) := by
    intro phase statement
    unfold Client.documentOf Client.responseOf
    rw [hanswer]
    rfl
  cases hbounded : (e.client.limitAt (some e.deadlineAt) x.startedAt).2 with
  | true =>
    refine .inl ⟨rfl, ?_⟩
    simp only [hbounded, if_true] at hdocument
    cases stage with
    | submitting =>
      simp only [react, submitted, hdocument]
      exact .inr ⟨.submit, rfl⟩
    | asking handle polls =>
      simp only [react, polled, hdocument]
      exact .inl ⟨handle, rfl⟩
    | reading result =>
      simp only [react, hdocument]
      exact .inr ⟨.fetchChunk, rfl⟩
    | expiring handle => exact absurd rfl (hopen handle)
    | waiting handle polls => cases hasks
    | finished outcome => cases hasks
  | false =>
    refine .inr ⟨rfl, ?_⟩
    simp only [hbounded, Bool.false_eq_true, if_false] at hdocument
    cases stage with
    | submitting =>
      simp only [react, submitted, hdocument]
      exact ⟨.submit, _, rfl⟩
    | asking handle polls =>
      simp only [react, polled, hdocument]
      exact ⟨.poll, _, rfl⟩
    | reading result =>
      simp only [react, hdocument]
      exact ⟨.fetchChunk, _, rfl⟩
    | expiring handle => exact absurd rfl (hopen handle)
    | waiting handle polls => cases hasks
    | finished outcome => cases hasks

omit [IsOrderedAddMonoid τ] in
/-- Where a timely state follows a request that was given up, the deadline did not bound it, and no
request is to take longer. -/
theorem Timely.of_timedOut {made : Nat} {limit : τ} {errand : Errand} {after : Session τ}
    (h : e.Timely httpTimeout made ((e.react x stage).1, after)) (hanswer : x.answer = .timedOut)
    (hasks : e.asks s.now stage = some (limit, errand))
    (hopen : ∀ handle, stage ≠ .expiring handle) :
    (e.client.limitAt (some e.deadlineAt) x.startedAt).2 = false ∧
      ¬ e.client.httpTimeout < httpTimeout := by
  rcases react_of_timedOut hanswer hasks hopen with ⟨-, ⟨handle, hlate⟩ | ⟨phase, hlate⟩⟩ |
    ⟨hfree, phase, brief, hslow⟩
  · rw [hlate] at h
    exact absurd h id
  · rw [hlate] at h
    exact absurd ⟨_, rfl, rfl⟩ h.1
  · rw [hslow] at h
    refine ⟨hfree, fun hmore => ?_⟩
    obtain ⟨result, hresult⟩ := h.2.2 hmore
    cases hresult

omit [IsOrderedAddMonoid τ] in
theorem react_extended (hopen : ∀ handle, stage ≠ .expiring handle)
    (h : ∀ phase, (e.extended httpTimeout deadline deadlineAt).client.responseOf (some deadlineAt)
      phase x = e.client.responseOf (some e.deadlineAt) phase x) :
    (e.extended httpTimeout deadline deadlineAt).react x stage = e.react x stage := by
  have hdocument : ∀ phase statement, (e.extended httpTimeout deadline deadlineAt).client.documentOf
      (some (e.extended httpTimeout deadline deadlineAt).deadlineAt) phase statement x =
      e.client.documentOf (some e.deadlineAt) phase statement x := by
    intro phase statement
    unfold Client.documentOf
    exact congrArg (· >>= Client.accept phase statement) (h phase)
  cases stage with
  | submitting =>
    simp only [react, submitted, hdocument]
    rfl
  | asking handle polls => simp only [react, polled, hdocument]
  | reading result => simp only [react, hdocument]
  | expiring handle => exact absurd rfl (hopen handle)
  | waiting handle polls => rfl
  | finished outcome => rfl

omit [IsOrderedAddMonoid τ] [Timeline τ] in
theorem asks_extended {made : Nat} (hlater : e.deadlineAt ≤ deadlineAt)
    (hnow : e.Timely httpTimeout made (stage, s)) :
    (e.extended httpTimeout deadline deadlineAt).asks s.now stage = (e.asks s.now stage).map
      fun asked => ((e.extended httpTimeout deadline deadlineAt).limit s.now, asked.2) := by
  cases stage with
  | asking handle polls =>
    have htime : ¬ e.deadlineAt ≤ s.now := not_le.mpr hnow
    have htime' : ¬ (e.extended httpTimeout deadline deadlineAt).deadlineAt ≤ s.now :=
      fun hlate => htime (hlater.trans hlate)
    simp only [asks, if_neg htime, if_neg htime', Option.map_some]
  | reading result =>
    simp only [asks]
    split
    · rw [Option.map_map]
      rfl
    · rfl
  | expiring handle => exact absurd hnow id
  | submitting => rfl
  | waiting handle polls => rfl
  | finished outcome => rfl

/-- **A step to a timely state is the same with more time.** -/
theorem step_extended {made : Nat} (hhttp : e.client.httpTimeout ≤ httpTimeout)
    (hlater : e.deadlineAt ≤ deadlineAt) (hnow : e.Timely httpTimeout made (stage, s))
    (hnext : e.Timely httpTimeout made (e.step (stage, s))) :
    (e.extended httpTimeout deadline deadlineAt).step (stage, s) = e.step (stage, s) := by
  have hopen : ∀ handle, stage ≠ .expiring handle := by
    rintro handle rfl
    exact hnow
  have hasks' : (e.extended httpTimeout deadline deadlineAt).asks s.now stage =
      (e.asks s.now stage).map fun asked =>
        ((e.extended httpTimeout deadline deadlineAt).limit s.now, asked.2) :=
    asks_extended hlater hnow
  cases hasks : e.asks s.now stage with
  | none =>
    rw [hasks] at hasks'
    rw [step_rest hasks] at hnext ⊢
    rw [step_rest hasks', rest_extended hlater hnext]
  | some asked =>
    obtain ⟨limit, errand⟩ := asked
    rw [hasks, Option.map_some] at hasks'
    obtain rfl : limit = e.limit s.now := by
      refine asks_limit hasks ?_
      rintro id rfl
      obtain ⟨-, handle, hstage⟩ := asks_cancel hasks
      exact hopen handle hstage
    obtain ⟨x, script, hmade⟩ : ∃ x script,
        s.exchange e.connection (e.limit s.now) errand = (x, script) := ⟨_, _, rfl⟩
    rw [step_ask hasks hmade] at hnext ⊢
    suffices h : s.exchange e.connection
          ((e.extended httpTimeout deadline deadlineAt).limit s.now) errand = (x, script) ∧
        ∀ phase, (e.extended httpTimeout deadline deadlineAt).client.responseOf (some deadlineAt)
          phase x = e.client.responseOf (some e.deadlineAt) phase x by
      rw [step_ask hasks' h.1, react_extended hopen h.2]
      rfl
    by_cases hanswer : x.answer = .timedOut
    · -- the request was given up at the client's own limit, which stays
      obtain ⟨hfree, hsame⟩ := hnext.of_timedOut hanswer hasks hopen
      obtain rfl : httpTimeout = e.client.httpTimeout := le_antisymm (not_lt.mp hsame) hhttp
      have hlimit : (e.extended e.client.httpTimeout deadline deadlineAt).client.limitAt
          (some deadlineAt) x.startedAt = e.client.limitAt (some e.deadlineAt) x.startedAt :=
        Client.limitAt_of_later hlater hfree
      constructor
      · have hstart := Session.startedAt_of_exchange hmade
        rw [hstart] at hlimit
        rw [limit, show (e.extended e.client.httpTimeout deadline deadlineAt).deadlineAt =
          deadlineAt from rfl, hlimit]
        exact hmade
      · intro phase
        unfold Client.responseOf
        rw [hlimit]
    · refine ⟨Session.exchange_of_le (limit_le_extended hhttp hlater s.now) hmade hanswer, ?_⟩
      intro phase
      unfold Client.responseOf
      cases htold : x.answer with
      | timedOut => exact absurd htold hanswer
      | _ => rfl

theorem run_extended {made steps : Nat} {state : Stage × Session τ}
    (hhttp : e.client.httpTimeout ≤ httpTimeout) (hlater : e.deadlineAt ≤ deadlineAt)
    (hmade : ∀ steps, made ≤ (e.run steps state).2.exchanges.length)
    (h : e.Timely httpTimeout made (e.run steps state)) :
    (e.extended httpTimeout deadline deadlineAt).run steps state = e.run steps state := by
  induction steps with
  | zero => rfl
  | succ steps ih =>
    rw [run_succ_last] at h
    have hprior : e.Timely httpTimeout made (e.run steps state) := Timely.of_step (hmade steps) h
    rw [run_succ_last, run_succ_last, ih hprior]
    exact step_extended hhttp hlater hprior h

end Execution

/-! ### Executions by a client -/

namespace Client

variable [Timeline τ] {client : Client τ} {job : Job τ} {s : Session τ} {patience : Nat}

theorem execute_of_timely {httpTimeout deadline : τ} (hhttp : client.httpTimeout ≤ httpTimeout)
    (hlater : job.deadline ≤ deadline)
    (hover : (client.execute patience job s).1 ≠ .error .unfinished)
    (hcancel : ∀ xs, (client.execute patience job s).2.exchanges = s.exchanges ++ xs →
      ∀ x ∈ xs, ¬ x.Cancels)
    (htime : ¬ TimedOut (client.execute patience job s).1)
    (hresult : client.httpTimeout < httpTimeout →
      ∃ result, (client.execute patience job s).1 = .ok result) :
    Client.execute { client with httpTimeout } patience { job with deadline } s =
      client.execute patience job s := by
  rcases execute_course client job s patience with ⟨failure, hconf, heq⟩ |
    ⟨fault, hconf, hconn, heq⟩ | ⟨connection, -, -, -, hconf, hconn, -, -⟩
  · rw [heq]
    exact execute_unconfigured hconf
  · rw [heq]
    exact execute_unconnected hconf hconn
  · have hrun : client.execute patience job s =
        (((client.execution connection job s).run patience (.submitting, s)).1.outcome,
          ((client.execution connection job s).run patience (.submitting, s)).2) :=
      execute_connected hconf hconn
    have hmade : ∀ steps, ∃ xs,
        ((client.execution connection job s).run steps (.submitting, s)).2.exchanges =
          s.exchanges ++ xs := by
      intro steps
      obtain ⟨xs, hcourse⟩ :=
        (Course.begin (e := client.execution connection job s)).run steps
      exact ⟨xs, hcourse.exchanges_eq⟩
    have hlength : ∀ steps, s.exchanges.length ≤
        ((client.execution connection job s).run steps (.submitting, s)).2.exchanges.length := by
      intro steps
      obtain ⟨xs, hxs⟩ := hmade steps
      rw [hxs, List.length_append]
      exact Nat.le_add_right _ _
    rw [hrun] at hover hcancel htime hresult
    have htimely : (client.execution connection job s).Timely httpTimeout s.exchanges.length
        ((client.execution connection job s).run patience (.submitting, s)) := by
      obtain ⟨xs, hxs⟩ := hmade patience
      have hstage := Stage.eq_finished rfl hover
      rw [← Prod.mk.eta (p := (client.execution connection job s).run patience (.submitting, s)),
        hstage]
      refine ⟨htime, ?_, hresult⟩
      rw [hxs, List.drop_left]
      exact hcancel xs hxs
    have hsame : ((client.execution connection job s).extended httpTimeout deadline
          (s.now + deadline)).run patience (.submitting, s) =
        (client.execution connection job s).run patience (.submitting, s) :=
      Execution.run_extended hhttp (add_le_add_right hlater s.now) hlength htimely
    rw [hrun, ← hsame]
    exact execute_connected hconf hconn

/-- **More time changes nothing that was obtained in time.** An execution that is over, was not
cancelled and did not time out goes the same way with a later deadline; one with a result does so
even if its requests may take longer. -/
theorem execute_extended {deadline : τ} (hlater : job.deadline ≤ deadline)
    (hover : (client.execute patience job s).1 ≠ .error .unfinished)
    (hcancel : ∀ xs, (client.execute patience job s).2.exchanges = s.exchanges ++ xs →
      ∀ x ∈ xs, ¬ x.Cancels)
    (htime : ¬ TimedOut (client.execute patience job s).1) :
    client.execute patience { job with deadline } s = client.execute patience job s ∧
    ∀ result httpTimeout, (client.execute patience job s).1 = .ok result →
      client.httpTimeout ≤ httpTimeout →
      Client.execute { client with httpTimeout } patience { job with deadline } s =
        client.execute patience job s := by
  constructor
  · exact execute_of_timely le_rfl hlater hover hcancel htime fun hmore =>
      absurd hmore (lt_irrefl _)
  · intro result httpTimeout hresult hhttp
    exact execute_of_timely hhttp hlater hover hcancel htime fun _ => ⟨result, hresult⟩

/-- A warehouse that takes its time, and then has a result without rows. -/
def slowSession : Session Rat :=
  exactSession [exactReply (1 / 10) .pending, exactReply (1 / 4) .running,
    exactResult [("data_array", .list [])]]

/-- A result that took about a second is the same if there were twenty instead of ten for it, and
nine instead of five for each request. -/
theorem execute_extended_slow :
    ∃ result, (exactClient.execute 9 exactJob slowSession).1 = .ok result ∧
      slowSession.now + 1 < (exactClient.execute 9 exactJob slowSession).2.now ∧
      Client.execute { exactClient with httpTimeout := (9 : Rat) } 9
        { exactJob with deadline := (20 : Rat) } slowSession =
          exactClient.execute 9 exactJob slowSession := by
  -- The three facts together, so that the execution is computed once.
  obtain ⟨hdone, hcalm, hlong⟩ :
      (exactClient.execute 9 exactJob slowSession).1.toOption.isSome = true ∧
      (∀ x ∈ (exactClient.execute 9 exactJob slowSession).2.exchanges, ¬ x.Cancels) ∧
      slowSession.now + 1 < (exactClient.execute 9 exactJob slowSession).2.now := by
    decide +kernel
  obtain ⟨result, hresult⟩ := Option.isSome_iff_exists.mp hdone
  have hok := toOption_eq_some.mp hresult
  have hlater : exactJob.deadline ≤ 20 := by decide +kernel
  have hhttp : exactClient.httpTimeout ≤ 9 := by decide +kernel
  have hover : (exactClient.execute 9 exactJob slowSession).1 ≠ .error .unfinished := by
    rw [hok]
    simp
  have hcancel : ∀ xs, (exactClient.execute 9 exactJob slowSession).2.exchanges =
      slowSession.exchanges ++ xs → ∀ x ∈ xs, ¬ x.Cancels := by
    intro xs hxs x hx
    refine hcalm x ?_
    rw [hxs]
    exact List.mem_append_right _ hx
  have htime : ¬ TimedOut (exactClient.execute 9 exactJob slowSession).1 := by
    rw [hok]
    rintro ⟨failure, hfailure, -⟩
    cases hfailure
  exact ⟨result, hok, hlong, (execute_extended hlater hover hcancel htime).2 result 9 hok hhttp⟩

end Client

end Indicator.Warehouse
