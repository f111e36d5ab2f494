import Indicator.Proofs.Warehouse.Cancellation

/-!
# Accounts of executions

The log of an execution tells what came of its requests: the handle of the submission, those of the
questions after the state, one after the other, and how it all ended.

* `news xs`: the records of the handles that requests brought.
* `records xs stage`: all records of an execution that came to a stage by these requests.
* `Execution.records_ask`, `Execution.records_rest`: a step adds its records and no others.
* `Course.log_eq`: **the log of an execution is the account of its requests.**
* `Closing xs outcome closing`: which record closes the log, and when there is none.
* `Client.execute_recorded`: **the log tells the run**, but for a cancellation that raises a fault.
  `Client.execute_unrecorded`: such a cancellation leaves no record.
-/

namespace Indicator.Warehouse

variable {τ : Type}

/-! ### Records of requests -/

def Errand.isSubmit : Errand → Bool
  | submit _ => true
  | _ => false

/-- The handles that requests of one kind brought, in order. -/
def handlesOf (kind : Errand → Bool) (xs : List (Exchange τ)) : List Handle :=
  handles (xs.filter (kind ·.errand))

/-- The records of the handles that requests brought: that of the submission, and those of the
questions after the state, which are numbered. -/
def news (xs : List (Exchange τ)) : List Event :=
  (handlesOf Errand.isSubmit xs).map (fun handle => .submitted handle.statementId handle.state) ++
    (handlesOf Errand.isPoll xs).mapIdx fun earlier handle =>
      .polled handle.statementId handle.state (earlier + 1)

/-- The record of how a cancellation ended. -/
def Exchange.cancelEvents (x : Exchange τ) : List Event :=
  match x.errand with
  | .cancel id => Warehouse.cancelEvents id x.answer
  | _ => []

/-- The records that close the log of an execution. -/
def closings (xs : List (Exchange τ)) : Stage → List Event
  | .finished (.ok result) => [.completed result.statementId result.polls result.rows.length]
  | _ => xs.flatMap Exchange.cancelEvents

/-- The records of an execution that came to a stage by these requests. -/
def records (xs : List (Exchange τ)) (stage : Stage) : List Event := news xs ++ closings xs stage

/-! ### One more request -/

theorem handlesOf_concat (kind : Errand → Bool) (xs : List (Exchange τ)) (x : Exchange τ) :
    handlesOf kind (xs ++ [x]) =
      handlesOf kind xs ++ if kind x.errand then x.handle?.toList else [] := by
  rw [handlesOf, List.filter_append, handles_append, handlesOf]
  congr 1
  by_cases hkind : kind x.errand
  · have hkept : [x].filter (kind ·.errand) = [x] := List.filter_cons_of_pos hkind
    rw [hkept, if_pos hkind]
    cases hhandle : x.handle? with
    | none => exact handles_singleton_none hhandle
    | some handle => exact handles_singleton hhandle
  · have hleft : [x].filter (kind ·.errand) = [] := List.filter_cons_of_neg hkind
    rw [hleft, if_neg hkind]
    rfl

theorem news_concat_none (xs : List (Exchange τ)) {x : Exchange τ} (h : x.handle? = none) :
    news (xs ++ [x]) = news xs := by
  simp [news, handlesOf_concat, h]

theorem news_submit {x : Exchange τ} {order : Order} {handle : Handle}
    (errand : x.errand = .submit order) (brought : x.handle? = some handle) :
    news [x] = [.submitted handle.statementId handle.state] := by
  have hsubmit : handlesOf Errand.isSubmit [x] = [handle] := by
    simp [handlesOf, handles, errand, Errand.isSubmit, brought]
  have hpoll : handlesOf Errand.isPoll [x] = [] := by
    simp [handlesOf, handles, errand, Errand.isPoll]
  rw [news, hsubmit, hpoll]
  rfl

/-- The news of a state are numbered after those before them. -/
theorem news_concat_poll {xs : List (Exchange τ)} {x : Exchange τ} {id : String} {handle : Handle}
    (errand : x.errand = .poll id) (brought : x.handle? = some handle) :
    news (xs ++ [x]) = news xs ++ [.polled handle.statementId handle.state
      ((handlesOf Errand.isPoll xs).length + 1)] := by
  have hsubmit : handlesOf Errand.isSubmit (xs ++ [x]) = handlesOf Errand.isSubmit xs := by
    simp [handlesOf_concat, errand, Errand.isSubmit]
  have hpoll : handlesOf Errand.isPoll (xs ++ [x]) = handlesOf Errand.isPoll xs ++ [handle] := by
    simp [handlesOf_concat, errand, Errand.isPoll, brought]
  rw [news, hsubmit, hpoll, List.mapIdx_concat, ← List.append_assoc, news]

theorem Heard.length_handlesOf {order : Order} {xs : List (Exchange τ)} {handle : Handle}
    {polls : Nat} (h : Heard order xs handle polls) :
    (handlesOf Errand.isPoll xs).length = polls := by
  induction h with
  | submit errand brought => simp [handlesOf, handles, errand, Errand.isPoll]
  | poll _ _ errand brought ih =>
    simp [handlesOf_concat, errand, Errand.isPoll, brought, ih]

theorem Pages.length_handlesOf {order : Order} {xs : List (Exchange τ)} {result : Progress}
    (h : Pages order xs result) : (handlesOf Errand.isPoll xs).length = result.polls := by
  induction h with
  | first heard brought => exact heard.length_handlesOf
  | next _ _ _ errand _ ih =>
    rw [handlesOf_concat, errand]
    simpa [Errand.isPoll, Progress.extend] using ih

/-! ### Cancellations -/

theorem Exchange.not_cancels_of_errand {x : Exchange τ} {errand : Errand}
    (h : x.errand = errand) (hcancel : ∀ id, errand ≠ .cancel id) : ¬ x.Cancels := by
  rintro ⟨id, herrand⟩
  exact hcancel id (h.symm.trans herrand)

theorem Exchange.cancelEvents_eq_nil {x : Exchange τ} (h : ¬ x.Cancels) :
    x.cancelEvents = [] := by
  unfold cancelEvents
  split
  · rename_i id herrand
    exact absurd ⟨id, herrand⟩ h
  · rfl

theorem flatMap_cancelEvents {xs : List (Exchange τ)} (h : ∀ x ∈ xs, ¬ x.Cancels) :
    xs.flatMap Exchange.cancelEvents = [] :=
  List.flatMap_eq_nil_iff.mpr fun x hx => Exchange.cancelEvents_eq_nil (h x hx)

/-! ### Steps -/

theorem Stage.ofHandle_ne_ok (handle : Handle) (polls : Nat) (result : Result) :
    ofHandle handle polls ≠ .finished (.ok result) := by
  unfold ofHandle ofFinal
  split
  · split
    · dsimp only [ofResult]
      split
      · split <;> simp [breach, fail]
      · simp
      · simp [breach, fail]
    · simp [breach, fail]
    · simp [fail]
  · simp

/-- The log is closed by a result, or by what came of the cancellation. -/
theorem closings_of_ne_ok (xs : List (Exchange τ)) {stage : Stage}
    (h : ∀ result, stage ≠ .finished (.ok result)) :
    closings xs stage = xs.flatMap Exchange.cancelEvents := by
  unfold closings
  split
  · exact absurd rfl (h _)
  · rfl

section

variable [Zero τ] [Sub τ] [LT τ] [DecidableLT τ] [Timeline τ]

namespace Execution

variable {e : Execution τ} {xs : List (Exchange τ)} {x : Exchange τ} {stage : Stage}

theorem react_ne_ok (hopen : ∀ outcome, stage ≠ .finished outcome) (result : Result) :
    (e.react x stage).1 ≠ .finished (.ok result) := by
  cases stage with
  | submitting =>
    simp only [react]
    split
    · simp
    · split
      · simp [Stage.fail]
      · exact Stage.ofHandle_ne_ok _ _ result
  | asking handle polls =>
    simp only [react]
    split
    · exact Stage.ofHandle_ne_ok _ _ result
    · simp
    · simp
  | expiring handle =>
    simp only [react]
    split <;> simp [Stage.fail]
  | reading progress =>
    simp only [react, Stage.afterChunk]
    split
    · split <;> simp [Stage.breach, Stage.fail]
    · simp
  | waiting handle polls => simp [react]
  | finished outcome => exact absurd rfl (hopen outcome)

theorem records_submitted (herrand : x.errand = .submit e.order) :
    news [x] ++ x.cancelEvents = (e.react x .submitting).2 := by
  have hquiet : x.cancelEvents = [] :=
    Exchange.cancelEvents_eq_nil (Exchange.not_cancels_of_errand herrand (by simp))
  rw [hquiet, List.append_nil, react]
  cases hsubmitted : e.submitted x with
  | error stop => exact news_concat_none [] (handle_eq_none_of_submitted herrand hsubmitted)
  | ok handle => exact news_submit herrand ((submitted_eq_ok_iff herrand).mp hsubmitted)

theorem records_polled {handle : Handle} {polls : Nat} (heard : Heard e.order xs handle polls)
    (herrand : x.errand = .poll handle.statementId) :
    news (xs ++ [x]) ++ x.cancelEvents = news xs ++ (e.react x (.asking handle polls)).2 := by
  have hquiet : x.cancelEvents = [] :=
    Exchange.cancelEvents_eq_nil (Exchange.not_cancels_of_errand herrand (by simp))
  rw [hquiet, List.append_nil]
  simp only [react]
  cases hpolled : e.polled handle.statementId x with
  | ok next =>
    rw [news_concat_poll herrand ((polled_eq_ok_iff herrand).mp hpolled), heard.length_handlesOf]
  | error stop =>
    rw [news_concat_none xs (handle_eq_none_of_polled herrand hpolled)]
    split
    · rename_i heq
      cases heq
    · exact (List.append_nil _).symm
    · exact (List.append_nil _).symm

variable [Add τ] [LE τ] [DecidableLE τ]

omit [Add τ] in
/-- **What a step records of a request is added to the account.** -/
theorem records_ask {now limit : τ} {errand : Errand} (h : e.History xs stage)
    (hnone : ∀ y ∈ xs, ¬ y.Cancels) (hasks : e.asks now stage = some (limit, errand))
    (herrand : x.errand = errand) :
    records (xs ++ [x]) (e.react x stage).1 = records xs stage ++ (e.react x stage).2 := by
  have hopen : ∀ outcome, stage ≠ .finished outcome := by
    rintro outcome rfl
    cases hasks
  have hbefore : closings xs stage = [] := by
    rw [closings_of_ne_ok xs fun result => hopen _, flatMap_cancelEvents hnone]
  have hafter : closings (xs ++ [x]) (e.react x stage).1 = x.cancelEvents := by
    rw [closings_of_ne_ok _ (react_ne_ok hopen), List.flatMap_append, flatMap_cancelEvents hnone,
      List.nil_append, List.flatMap_singleton]
  rw [records, records, hbefore, hafter, List.append_nil]
  cases stage with
  | submitting =>
    cases hasks
    obtain rfl : xs = [] := h
    exact records_submitted herrand
  | asking handle polls =>
    simp only [asks, Option.ite_none_left_eq_some, Option.some.injEq, Prod.mk.injEq] at hasks
    obtain ⟨-, -, rfl⟩ := hasks
    exact records_polled h.1 herrand
  | expiring handle =>
    cases hasks
    rw [news_concat_none xs (Exchange.handle_eq_none_of_cancel herrand), Exchange.cancelEvents,
      herrand]
    rfl
  | reading result =>
    simp only [asks, Option.ite_none_right_eq_some, Option.map_eq_some_iff, Prod.mk.injEq] at hasks
    obtain ⟨-, link, -, -, rfl⟩ := hasks
    have hquiet : x.cancelEvents = [] :=
      Exchange.cancelEvents_eq_nil (Exchange.not_cancels_of_errand herrand (by simp))
    rw [news_concat_none xs (Exchange.handle_eq_none_of_fetch herrand), hquiet]
    simp only [react]
    split <;> rfl
  | waiting handle polls => cases hasks
  | finished outcome => cases hasks

omit [Timeline τ] [LE τ] [DecidableLE τ] in
theorem rest_waiting_records (e : Execution τ) (s : Session τ) (xs : List (Exchange τ))
    (handle : Handle) (polls : Nat) : (e.rest s (.waiting handle polls)).2.log = s.log ∧
      records xs (e.rest s (.waiting handle polls)).1 = records xs (.waiting handle polls) := by
  simp only [rest]
  split
  · cases e.job.interval with
    | ok interval => exact ⟨s.pause_log _, rfl⟩
    | error fault => exact ⟨rfl, rfl⟩
  · exact ⟨rfl, rfl⟩

omit [Timeline τ] in
/-- **So is what it records without one.** -/
theorem records_rest {s : Session τ}
    (hopen : (∀ outcome, stage ≠ .finished outcome) → ∀ y ∈ xs, ¬ y.Cancels)
    (hasks : e.asks s.now stage = none) : ∃ events : List Event,
      (e.rest s stage).2.log = s.log ++ events.map (⟨e.job.correlation, ·⟩) ∧
      records xs (e.rest s stage).1 = records xs stage ++ events := by
  cases stage with
  | reading result =>
    have hbefore : closings xs (.reading result) = [] := flatMap_cancelEvents (hopen (by simp))
    simp only [rest]
    split
    · exact ⟨[], by simp, by simp [records, closings, Stage.breach, Stage.fail]⟩
    · refine ⟨[.completed result.statementId result.polls result.rows.length], rfl, ?_⟩
      rw [records, records, hbefore, List.append_nil]
      rfl
  | waiting handle polls =>
    obtain ⟨hlog, hrecords⟩ := e.rest_waiting_records s xs handle polls
    exact ⟨[], by rw [hlog, List.map_nil, List.append_nil], by rw [hrecords, List.append_nil]⟩
  | submitting => cases hasks
  | asking handle polls => exact ⟨[], by simp [rest], by simp [rest, records, closings]⟩
  | expiring handle => cases hasks
  | finished outcome => exact ⟨[], by simp [rest], by simp [rest]⟩

end Execution

variable [Add τ] [LE τ] [DecidableLE τ]

/-- **The log of an execution is the account of its requests.** -/
theorem Course.log_eq {e : Execution τ} {start s : Session τ} {xs : List (Exchange τ)}
    {stage : Stage} (h : Course e start xs stage s) :
    s.log = start.log ++ (records xs stage).map (⟨e.job.correlation, ·⟩) := by
  induction h with
  | begin => simp [records, news, closings, handlesOf, handles]
  | @ask xs stage s limit errand x script prior asks made ih =>
    have hopen : ∀ outcome, stage ≠ .finished outcome := by
      rintro outcome rfl
      cases asks
    have herrand := Session.errand_of_exchange made
    rw [Execution.records_ask prior.history (prior.uncancelled hopen) asks herrand, List.map_append,
      ← List.append_assoc, ← ih]
    rfl
  | rest prior asks ih =>
    obtain ⟨events, hlog, hrecords⟩ := Execution.records_rest prior.uncancelled asks
    rw [hlog, hrecords, List.map_append, ← List.append_assoc, ← ih]

end

/-! ### The record that closes the log -/

/-- Why a cancellation that ended so failed, if it did and raised no fault. -/
def Answer.refusal? : Answer → Option CancelRefusal
  | .response told => if 400 ≤ told.status then some (.status told.status) else none
  | .broken reason => some (.broken reason)
  | .timedOut => some (.broken "TimeoutError")
  | .fault _ => none

/-- An answer that accepts what was asked for. -/
def Answer.Accepts (answer : Answer) : Prop :=
  ∃ told : Response, answer = .response told ∧ told.status < 400

/-- **The record that closes the log** of an execution, by its requests and its outcome. -/
structure Closing (xs : List (Exchange τ)) (outcome : Except Stop Result)
    (closing : Option Event) : Prop where
  cancelled : ∀ id, closing = some (.cancelled id) ↔
    ∃ x ∈ xs, x.errand = .cancel id ∧ x.answer.Accepts
  cancelFailed : ∀ id refusal, closing = some (.cancelFailed id refusal) ↔
    ∃ x ∈ xs, x.errand = .cancel id ∧ x.answer.refusal? = some refusal
  completed : ∀ id polls rows, closing = some (.completed id polls rows) ↔
    ∃ result, outcome = .ok result ∧ id = result.statementId ∧
      polls = (handlesOf Errand.isPoll xs).length ∧ rows = result.rows.length
  /-- None closes it exactly if there is no result, and what was cancelled raised a fault. -/
  silent : closing = none ↔ (∀ result, outcome ≠ .ok result) ∧
    ∀ x ∈ xs, x.Cancels → ∃ fault, x.answer = .fault fault

/-! ### What is recorded of a cancellation -/

section

variable {id other : String} {answer : Answer}

theorem head_cancelEvents_eq_cancelled :
    (cancelEvents id answer).head? = some (.cancelled other) ↔ other = id ∧ answer.Accepts := by
  cases answer with
  | response told =>
    by_cases hstatus : 400 ≤ told.status
    · simp [cancelEvents, Answer.Accepts, hstatus]
    · simp [cancelEvents, Answer.Accepts, hstatus, eq_comm, not_le.mp hstatus]
  | broken reason => simp [cancelEvents, Answer.Accepts]
  | timedOut => simp [cancelEvents, Answer.Accepts]
  | fault fault => simp [cancelEvents, Answer.Accepts]

theorem head_cancelEvents_eq_cancelFailed {refusal : CancelRefusal} :
    (cancelEvents id answer).head? = some (.cancelFailed other refusal) ↔
      other = id ∧ answer.refusal? = some refusal := by
  cases answer with
  | response told =>
    by_cases hstatus : 400 ≤ told.status
    · simp [cancelEvents, Answer.refusal?, hstatus, eq_comm]
    · simp [cancelEvents, Answer.refusal?, hstatus]
  | broken reason => simp [cancelEvents, Answer.refusal?, eq_comm]
  | timedOut => simp [cancelEvents, Answer.refusal?, eq_comm]
  | fault fault => simp [cancelEvents, Answer.refusal?]

theorem head_cancelEvents_ne_completed {polls rows : Nat} :
    (cancelEvents id answer).head? ≠ some (.completed other polls rows) := by
  cases answer with
  | response told => by_cases hstatus : 400 ≤ told.status <;> simp [cancelEvents, hstatus]
  | broken reason => simp [cancelEvents]
  | timedOut => simp [cancelEvents]
  | fault fault => simp [cancelEvents]

/-- **Only a fault leaves no record.** -/
theorem head_cancelEvents_eq_none :
    (cancelEvents id answer).head? = none ↔ ∃ fault, answer = .fault fault := by
  cases answer with
  | response told => by_cases hstatus : 400 ≤ told.status <;> simp [cancelEvents, hstatus]
  | broken reason => simp [cancelEvents]
  | timedOut => simp [cancelEvents]
  | fault fault => simp [cancelEvents]

theorem cancelEvents_eq_head (id : String) (answer : Answer) :
    cancelEvents id answer = (cancelEvents id answer).head?.toList := by
  have hlength := length_cancelEvents_le id answer
  cases hevents : cancelEvents id answer with
  | nil => rfl
  | cons event rest =>
    have hrest : rest = [] := by
      rw [hevents, List.length_cons] at hlength
      exact List.length_eq_zero_iff.mp (by omega)
    rw [hrest]
    rfl

end

/-- The one request that cancels is the last one. -/
theorem exists_cancel_concat {xs : List (Exchange τ)} {x : Exchange τ} {id other : String}
    (hopen : ∀ y ∈ xs, ¬ y.Cancels) (errand : x.errand = .cancel id) {P : Answer → Prop} :
    (∃ y ∈ xs ++ [x], y.errand = .cancel other ∧ P y.answer) ↔ other = id ∧ P x.answer := by
  constructor
  · rintro ⟨y, hy, herrand, hP⟩
    rcases List.mem_append.mp hy with hy | hy
    · exact absurd ⟨other, herrand⟩ (hopen y hy)
    · rw [List.mem_singleton.mp hy] at herrand hP
      rw [errand, Errand.cancel.injEq] at herrand
      exact ⟨herrand.symm, hP⟩
  · rintro ⟨rfl, hP⟩
    exact ⟨x, by simp, errand, hP⟩

namespace Closing

variable {xs : List (Exchange τ)} {outcome : Except Stop Result}

theorem of_open (hopen : ∀ x ∈ xs, ¬ x.Cancels) (hfailed : ∀ result, outcome ≠ .ok result) :
    Closing xs outcome none := by
  have hnone : ∀ id, ∀ x ∈ xs, x.errand ≠ .cancel id := fun id x hx h => hopen x hx ⟨id, h⟩
  refine ⟨fun id => ?_, fun id refusal => ?_, fun id polls rows => ?_, ?_⟩
  · simpa using fun x hx herrand => absurd herrand (hnone id x hx)
  · simpa using fun x hx herrand => absurd herrand (hnone id x hx)
  · simpa using fun result hresult => absurd hresult (hfailed result)
  · exact ⟨fun _ => ⟨hfailed, fun x hx hcancels => absurd hcancels (hopen x hx)⟩, fun _ => rfl⟩

theorem of_result {result : Result} (hopen : ∀ x ∈ xs, ¬ x.Cancels)
    (hpolls : (handlesOf Errand.isPoll xs).length = result.polls) :
    Closing xs (.ok result)
      (some (.completed result.statementId result.polls result.rows.length)) := by
  have hnone : ∀ id, ∀ x ∈ xs, x.errand ≠ .cancel id := fun id x hx h => hopen x hx ⟨id, h⟩
  refine ⟨fun id => ?_, fun id refusal => ?_, fun id polls rows => ?_, ?_⟩
  · simpa using fun x hx herrand => absurd herrand (hnone id x hx)
  · simpa using fun x hx herrand => absurd herrand (hnone id x hx)
  · simp [hpolls, eq_comm]
  · simp

theorem of_cancel {x : Exchange τ} {id : String} (hopen : ∀ y ∈ xs, ¬ y.Cancels)
    (errand : x.errand = .cancel id) (hfailed : ∀ result, outcome ≠ .ok result) :
    Closing (xs ++ [x]) outcome (cancelEvents id x.answer).head? where
  cancelled other := by
    rw [exists_cancel_concat hopen errand, head_cancelEvents_eq_cancelled]
  cancelFailed other refusal := by
    rw [exists_cancel_concat hopen errand (P := fun answer => answer.refusal? = some refusal),
      head_cancelEvents_eq_cancelFailed]
  completed other polls rows := by
    constructor
    · exact fun h => absurd h head_cancelEvents_ne_completed
    · rintro ⟨result, hresult, -⟩
      exact absurd hresult (hfailed result)
  silent := by
    rw [head_cancelEvents_eq_none]
    constructor
    · intro hfault
      refine ⟨hfailed, fun y hy hcancels => ?_⟩
      rcases List.mem_append.mp hy with hy | hy
      · exact absurd hcancels (hopen y hy)
      · rw [List.mem_singleton.mp hy]
        exact hfault
    · rintro ⟨-, hfault⟩
      exact hfault x (by simp) ⟨id, errand⟩

end Closing

theorem closing_of_open {xs : List (Exchange τ)} {stage : Stage} (hopen : ∀ x ∈ xs, ¬ x.Cancels)
    (hfailed : ∀ result, stage.outcome ≠ .ok result) :
    ∃ closing : Option Event, closings xs stage = closing.toList ∧
      Closing xs stage.outcome closing := by
  refine ⟨none, ?_, .of_open hopen hfailed⟩
  have hstage : ∀ result, stage ≠ .finished (.ok result) := by
    rintro result rfl
    exact hfailed result rfl
  rw [closings_of_ne_ok xs hstage, flatMap_cancelEvents hopen, Option.toList_none]

theorem closing_of_cancel {xs : List (Exchange τ)} {x : Exchange τ} {id : String} {stop : Stop}
    (hopen : ∀ y ∈ xs, ¬ y.Cancels) (errand : x.errand = .cancel id) :
    ∃ closing : Option Event,
      closings (xs ++ [x]) (.finished (.error stop)) = closing.toList ∧
      Closing (xs ++ [x]) (.error stop) closing := by
  refine ⟨(cancelEvents id x.answer).head?, ?_, .of_cancel hopen errand (by simp)⟩
  rw [closings_of_ne_ok _ (by simp), List.flatMap_append, flatMap_cancelEvents hopen,
    List.nil_append, List.flatMap_singleton, Exchange.cancelEvents, errand]
  exact cancelEvents_eq_head id x.answer

section

variable [Zero τ] [Add τ] [Sub τ] [LT τ] [LE τ] [DecidableLT τ] [DecidableLE τ] [Timeline τ]

namespace Course

variable {e : Execution τ} {start s : Session τ} {xs : List (Exchange τ)} {stage : Stage}

theorem countP_isSubmit (h : Course e start xs stage s) : xs.countP (·.errand.isSubmit) ≤ 1 := by
  induction h with
  | begin => simp
  | @ask xs stage s limit errand x script prior asks made ih =>
    cases errand with
    | submit order =>
      obtain rfl := Execution.asks_submit asks
      obtain rfl : xs = [] := prior.history
      exact List.countP_le_length
    | _ =>
      rw [List.countP_append, List.countP_singleton, Session.errand_of_exchange made]
      exact ih
  | rest prior asks ih => exact ih

/-- A course cancelled nothing, or its last request did and it is over. -/
theorem cancels_cases (h : Course e start xs stage s) : (∀ x ∈ xs, ¬ x.Cancels) ∨
    ∃ before x id stop, xs = before ++ [x] ∧ x.errand = .cancel id ∧
      (∀ y ∈ before, ¬ y.Cancels) ∧ stage = .finished (.error stop) := by
  induction h with
  | begin => exact .inl (by simp)
  | @ask xs stage s limit errand x script prior asks made ih =>
    have hopen : ∀ outcome, stage ≠ .finished outcome := by
      rintro outcome rfl
      cases asks
    have hnone := prior.uncancelled hopen
    have herrand := Session.errand_of_exchange made
    by_cases hcancels : x.Cancels
    · obtain ⟨id, hid⟩ := hcancels
      obtain ⟨-, handle, rfl⟩ := Execution.asks_cancel (herrand.symm.trans hid ▸ asks)
      obtain ⟨outcome, hfinished⟩ := e.react_cancel_finished x handle
      rw [hfinished]
      cases outcome with
      | ok result => exact absurd hfinished (Execution.react_ne_ok hopen result)
      | error stop => exact .inr ⟨xs, x, id, stop, rfl, hid, hnone, rfl⟩
    · simp only [List.forall_mem_append, List.forall_mem_singleton]
      exact .inl ⟨hnone, hcancels⟩
  | rest prior asks ih =>
    rcases ih with hnone | ⟨before, x, id, stop, rfl, hid, hnone, rfl⟩
    · exact .inl hnone
    · exact .inr ⟨before, x, id, stop, rfl, hid, hnone, rfl⟩

/-- **At most one record closes the log**, wherever an execution stands. -/
theorem closing (h : Course e start xs stage s) :
    ∃ closing : Option Event, closings xs stage = closing.toList ∧
      Closing xs stage.outcome closing := by
  rcases h.cancels_cases with hnone | ⟨before, x, id, stop, rfl, errand, hbefore, rfl⟩
  · cases houtcome : stage.outcome with
    | ok result =>
      obtain rfl := Stage.eq_finished houtcome (by simp)
      cases h.history with
      | complete pages last => exact ⟨_, rfl, .of_result hnone pages.length_handlesOf⟩
    | error stop =>
      rw [← houtcome]
      exact closing_of_open hnone (by simp [houtcome])
  · exact closing_of_cancel hbefore errand

end Course

/-! ### Executions -/

namespace Client

/-- **The log tells the run.** What an execution adds to it are the handles that its requests
brought, each once and in their order, those of the questions after the state numbered; and then at
most one record, which tells of the result or of the cancellation. There is none about a
cancellation only if it raised a fault, and if the replies are plain, then it was not sent. -/
theorem execute_recorded (client : Client τ) (job : Job τ) (s : Session τ) (patience : Nat) :
    ∃ (xs : List (Exchange τ)) (closing : Option Event),
      (client.execute patience job s).2.exchanges = s.exchanges ++ xs ∧
      xs.countP (·.errand.isSubmit) ≤ 1 ∧
      (client.execute patience job s).2.log =
        s.log ++ (news xs ++ closing.toList).map (⟨job.correlation, ·⟩) ∧
      Closing xs (client.execute patience job s).1 closing ∧
      (s.script.Plain → closing = none → ∀ x ∈ xs, x.Cancels → x.url = none) := by
  rcases execute_course client job s patience with ⟨failure, -, heq⟩ | ⟨fault, -, -, heq⟩ |
    ⟨connection, xs, stage, ended, -, hconn, hcourse, heq⟩
  · rw [heq]
    exact ⟨[], none, by simp, by simp, by simp [news, handlesOf, handles],
      .of_open (by simp) (by simp), by simp⟩
  · rw [heq]
    exact ⟨[], none, by simp, by simp, by simp [news, handlesOf, handles],
      .of_open (by simp) (by simp), by simp⟩
  · obtain ⟨closing, hclosings, hclosing⟩ := hcourse.closing
    rw [heq]
    refine ⟨xs, closing, hcourse.exchanges_eq, hcourse.countP_isSubmit, ?_, hclosing, ?_⟩
    · rw [← hclosings]
      exact hcourse.log_eq
    · intro hplain hnone x hx hcancels
      obtain ⟨fault, hfault⟩ := (hclosing.silent.mp hnone).2 x hx hcancels
      exact hcourse.unsent_of_fault (base_of_connect hconn) hplain hx hcancels hfault

end Client

end

namespace Client

/-- A cancellation that is refused closes the log. -/
theorem execute_recorded_refused :
    (pendingSession.reserving refusedCancel).script.Plain ∧
      ∃ (xs : List (Exchange Rat)) (closing : Event),
        (exactClient.execute 12 briefJob (pendingSession.reserving refusedCancel)).2.exchanges = xs ∧
        (∃ x ∈ xs, x.Cancels) ∧
        (exactClient.execute 12 briefJob (pendingSession.reserving refusedCancel)).2.log =
          (news xs ++ [closing]).map (⟨none, ·⟩) ∧
        Closing xs (exactClient.execute 12 briefJob (pendingSession.reserving refusedCancel)).1
          (some closing) := by
  have hplain : (pendingSession.reserving refusedCancel).script.Plain := by
    refine ⟨pendingSession_plain.replies, fun scheduled hcancel => ?_⟩
    cases hcancel
    exact Reply.plain_response rfl
  obtain ⟨xs, closing, hmade, -, hlog, hclosing, hsent⟩ :=
    execute_recorded exactClient briefJob (pendingSession.reserving refusedCancel) 12
  have hcancelled : ∃ x ∈ (exactClient.execute 12 briefJob
      (pendingSession.reserving refusedCancel)).2.exchanges, x.Cancels ∧ x.url.isSome := by
    decide +kernel
  rw [hmade] at hcancelled
  obtain ⟨x, hx, hcancels, hurl⟩ := hcancelled
  cases closing with
  | none =>
    rw [hsent hplain rfl x hx hcancels] at hurl
    cases hurl
  | some closing => exact ⟨hplain, xs, closing, hmade, ⟨x, hx, hcancels⟩, hlog, hclosing⟩

/-- **A cancellation that raises a fault leaves no record**: one that is sent and leads on to no
address, and one whose address cannot be written. -/
theorem execute_unrecorded :
    (∃ x ∈ (exactClient.execute 12 briefJob (pendingSession.reserving strayCancel)).2.exchanges,
        x.Cancels ∧ x.url.isSome) ∧
      (exactClient.execute 12 briefJob (pendingSession.reserving strayCancel)).2.log =
        [⟨none, .submitted "stmt-1" .pending⟩] ∧
      (∃ x ∈ (exactClient.execute 12 briefJob unaddressedSession).2.exchanges, x.Cancels) ∧
      (exactClient.execute 12 briefJob unaddressedSession).2.log =
        [⟨none, .submitted "a\u0001b" .pending⟩] := by
  decide +kernel

end Client

end Indicator.Warehouse
