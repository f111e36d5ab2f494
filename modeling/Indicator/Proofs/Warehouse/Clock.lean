import Indicator.Proofs.Warehouse.Classification
import Indicator.Proofs.Warehouse.Deadline

/-!
# The clock of an execution

Where the clock stands at each stage. Between two requests it moves in a pause only, so that it
stands where the last request ended, unless a pause is over or the deadline has passed.

* `Course.now_eq_endedAt`: the clock at the other stages.
* `Course.asking_cases`, `Course.expiring_cases`: what comes before a question after the state, and
  before a cancellation.
* `Execution.endedAt_lt_of_answered`, `Execution.endedAt_eq_of_hurried`: with exact times an answer
  comes before the deadline, and a request that the deadline cuts short ends with it.
* `Course.now_lt`, `Course.expiring_now`: after an answer the clock stands before the deadline, and
  **a statement is cancelled at its deadline**, neither sooner nor later.
-/

namespace Indicator.Warehouse

open Json (Document)

variable {τ : Type}

/-! ### Where stages come from -/

namespace Stage

variable {handle : Handle} {polls : Nat}

theorem ofHandle_cases (handle : Handle) (polls : Nat) :
    ofHandle handle polls = .waiting handle polls ∨
      (∃ rows link, ofHandle handle polls = .reading (handle.progress polls rows link)) ∨
      ∃ outcome, ofHandle handle polls = .finished outcome := by
  unfold ofHandle
  split
  · unfold ofFinal
    split
    · rename_i result _ _
      dsimp only [ofResult]
      split
      · split
        · exact .inr (.inl ⟨_, _, rfl⟩)
        · exact .inr (.inr ⟨_, rfl⟩)
      · exact .inr (.inl ⟨_, _, rfl⟩)
      · exact .inr (.inr ⟨_, rfl⟩)
    · exact .inr (.inr ⟨_, rfl⟩)
    · exact .inr (.inr ⟨_, rfl⟩)
  · exact .inl rfl

end Stage

section

variable [Zero τ] [Sub τ] [LT τ] [LE τ] [DecidableLT τ] [DecidableLE τ] [Timeline τ]

namespace Execution

variable {e : Execution τ} {x : Exchange τ}

omit [LE τ] [DecidableLE τ] in
theorem react_submitting_cases (e : Execution τ) (x : Exchange τ) :
    (∃ handle, (e.react x .submitting).1 = .ofHandle handle 0) ∨
      ∃ outcome, (e.react x .submitting).1 = .finished outcome := by
  simp only [react]
  split
  · exact .inr ⟨_, rfl⟩
  · rename_i handle _
    by_cases hfailed : handle.state = .failed
    · exact .inr ⟨_, if_pos hfailed⟩
    · exact .inl ⟨handle, if_neg hfailed⟩

omit [LE τ] [DecidableLE τ] in
theorem react_asking_cases (e : Execution τ) (x : Exchange τ) (handle : Handle) (polls : Nat) :
    (∃ next, (e.react x (.asking handle polls)).1 = .ofHandle next (polls + 1)) ∨
      (∃ phase, e.polled handle.statementId x = .error (.failure (.pastDeadline phase)) ∧
        (e.react x (.asking handle polls)).1 = .expiring handle) ∨
      ∃ outcome, (e.react x (.asking handle polls)).1 = .finished outcome := by
  simp only [react]
  split
  · exact .inl ⟨_, rfl⟩
  · rename_i phase hlate
    exact .inr (.inl ⟨phase, hlate, rfl⟩)
  · exact .inr (.inr ⟨_, rfl⟩)

omit [LE τ] [DecidableLE τ] in
theorem react_reading_cases (e : Execution τ) (x : Exchange τ) (result : Progress) :
    (∃ rows next, (e.react x (.reading result)).1 =
      .reading (result.extend x.errand.link rows next)) ∨
      ∃ outcome, (e.react x (.reading result)).1 = .finished outcome := by
  simp only [react]
  split
  · simp only [Stage.afterChunk]
    split
    · exact .inr ⟨_, rfl⟩
    · exact .inl ⟨_, _, rfl⟩
  · exact .inr ⟨_, rfl⟩

/-- No request leads to the question after the state: there is a pause before it. -/
theorem react_ne_asking {now limit : τ} {errand : Errand} {stage : Stage}
    (hasks : e.asks now stage = some (limit, errand)) (handle : Handle) (polls : Nat) :
    (e.react x stage).1 ≠ .asking handle polls := by
  have hnews : ∀ next count, Stage.ofHandle next count ≠ .asking handle polls := by
    intro next count
    rcases Stage.ofHandle_cases next count with heq | ⟨_, _, heq⟩ | ⟨_, heq⟩ <;> simp [heq]
  cases stage with
  | submitting =>
    rcases e.react_submitting_cases x with ⟨next, heq⟩ | ⟨_, heq⟩
    · rw [heq]
      exact hnews next 0
    · simp [heq]
  | asking last count =>
    rcases e.react_asking_cases x last count with ⟨next, heq⟩ | ⟨_, -, heq⟩ | ⟨_, heq⟩
    · rw [heq]
      exact hnews next (count + 1)
    · simp [heq]
    · simp [heq]
  | expiring last =>
    obtain ⟨outcome, heq⟩ := e.react_cancel_finished x last
    simp [heq]
  | reading result =>
    rcases e.react_reading_cases x result with ⟨_, _, heq⟩ | ⟨_, heq⟩ <;> simp [heq]
  | waiting last count => cases hasks
  | finished outcome => cases hasks

variable [Add τ]

omit [LE τ] [DecidableLE τ] [Timeline τ] in
/-- A pause leads to a question after the state, unless its interval cannot be used. -/
theorem rest_waiting_cases (e : Execution τ) (s : Session τ) (handle : Handle) (polls : Nat) :
    (∃ s', e.rest s (.waiting handle polls) = (.asking handle polls, s')) ∨
      ∃ outcome, e.rest s (.waiting handle polls) = (.finished outcome, s) := by
  simp only [rest]
  split
  · split
    · exact .inl ⟨_, rfl⟩
    · exact .inr ⟨_, rfl⟩
  · exact .inl ⟨_, rfl⟩

end Execution

variable [Add τ]

/-! ### What comes before a stage -/

namespace Course

variable {e : Execution τ} {start s : Session τ} {xs : List (Exchange τ)} {stage : Stage}
  {handle : Handle} {polls : Nat}

theorem asking_cases (h : Course e start xs (.asking handle polls) s) :
    ∃ before, Course e start xs (.waiting handle polls) before ∧
      e.rest before (.waiting handle polls) = (.asking handle polls, s) := by
  generalize hstage : Stage.asking handle polls = stage at h
  cases h with
  | begin => cases hstage
  | ask _ asks _ => exact absurd hstage.symm (Execution.react_ne_asking asks handle polls)
  | @rest _ stage before prior asks =>
    cases stage with
    | waiting last count =>
      rcases e.rest_waiting_cases before last count with ⟨s', heq⟩ | ⟨outcome, heq⟩
      · rw [heq] at hstage ⊢
        cases hstage
        exact ⟨before, prior, heq⟩
      · rw [heq] at hstage
        cases hstage
    | asking last count => simp [Execution.rest] at hstage
    | reading result =>
      simp only [Execution.rest] at hstage
      split at hstage <;> cases hstage
    | submitting => cases asks
    | expiring last => cases asks
    | finished outcome => simp [Execution.rest] at hstage

/-- A statement is cancelled after a pause that lasted until the deadline, or after a question that
the deadline cut short. -/
theorem expiring_cases (h : Course e start xs (.expiring handle) s) :
    (∃ polls, Course e start xs (.asking handle polls) s ∧ e.deadlineAt ≤ s.now) ∨
    ∃ polls phase prior x before script, xs = prior ++ [x] ∧
      Course e start prior (.asking handle polls) before ∧ ¬ e.deadlineAt ≤ before.now ∧
      before.exchange e.connection (e.limit before.now) (.poll handle.statementId) = (x, script) ∧
      e.polled handle.statementId x = .error (.failure (.pastDeadline phase)) ∧
      s.now = x.endedAt := by
  generalize hstage : Stage.expiring handle = stage at h
  cases h with
  | begin => cases hstage
  | @ask prior stage before limit errand x script course asks made =>
    right
    have hnews : ∀ next count, Stage.ofHandle next count ≠ .expiring handle := by
      intro next count
      rcases Stage.ofHandle_cases next count with heq | ⟨_, _, heq⟩ | ⟨_, heq⟩ <;> simp [heq]
    cases stage with
    | submitting =>
      rcases e.react_submitting_cases x with ⟨next, heq⟩ | ⟨_, heq⟩
      · exact absurd (heq.symm.trans hstage.symm) (hnews next 0)
      · rw [heq] at hstage
        cases hstage
    | asking last count =>
      simp only [Execution.asks, Option.ite_none_left_eq_some, Option.some.injEq,
        Prod.mk.injEq] at asks
      obtain ⟨htime, rfl, rfl⟩ := asks
      rcases e.react_asking_cases x last count with ⟨next, heq⟩ | ⟨phase, hlate, heq⟩ | ⟨_, heq⟩
      · exact absurd (heq.symm.trans hstage.symm) (hnews next (count + 1))
      · rw [heq] at hstage
        cases hstage
        exact ⟨count, phase, prior, x, before, script, rfl, course, htime, made, hlate, rfl⟩
      · rw [heq] at hstage
        cases hstage
    | expiring last =>
      obtain ⟨outcome, heq⟩ := e.react_cancel_finished x last
      rw [heq] at hstage
      cases hstage
    | reading result =>
      rcases e.react_reading_cases x result with ⟨_, _, heq⟩ | ⟨_, heq⟩
      · rw [heq] at hstage
        cases hstage
      · rw [heq] at hstage
        cases hstage
    | waiting last count => cases asks
    | finished outcome => cases asks
  | @rest _ stage before prior asks =>
    left
    cases stage with
    | waiting last count =>
      rcases e.rest_waiting_cases before last count with ⟨s', heq⟩ | ⟨outcome, heq⟩
      · rw [heq] at hstage
        cases hstage
      · rw [heq] at hstage
        cases hstage
    | asking last count =>
      cases hstage
      have hdue : e.deadlineAt ≤ before.now := by simpa [Execution.asks] using asks
      exact ⟨count, prior, hdue⟩
    | reading result =>
      simp only [Execution.rest] at hstage
      split at hstage <;> cases hstage
    | submitting => cases asks
    | expiring last => cases asks
    | finished outcome => simp [Execution.rest] at hstage

/-- **The clock stands where the last request ended**, but after a pause and after the deadline. -/
theorem now_eq_endedAt (h : Course e start xs stage s) {x : Exchange τ}
    (hlast : xs.getLast? = some x) (hasking : ∀ handle polls, stage ≠ .asking handle polls)
    (hexpiring : ∀ handle, stage ≠ .expiring handle) : s.now = x.endedAt := by
  induction h with
  | begin => cases hlast
  | ask =>
    rw [List.getLast?_concat, Option.some.injEq] at hlast
    rw [← hlast]
    rfl
  | @rest xs stage s prior asks ih =>
    cases stage with
    | waiting handle polls =>
      rcases e.rest_waiting_cases s handle polls with ⟨s', heq⟩ | ⟨outcome, heq⟩
      · rw [heq] at hasking
        exact absurd rfl (hasking handle polls)
      · rw [heq]
        exact ih hlast (by simp) (by simp)
    | asking handle polls => exact absurd rfl (hexpiring handle)
    | reading result =>
      have hnow := ih hlast (by simp) (by simp)
      simp only [Execution.rest]
      split
      · exact hnow
      · exact hnow
    | finished outcome => exact ih hlast (by simp) (by simp)
    | submitting => cases asks
    | expiring handle => cases asks

end Course

end

/-! ### Requests and the deadline -/

theorem checkMove_eq_error {url : Web.Url} {told : Response} {answer : Answer}
    (h : checkMove url told = .error answer) :
    (∃ reason, answer = .broken reason) ∨ ∃ fault, answer = .fault fault := by
  unfold checkMove at h
  split at h
  · cases h
  · split at h
    · split at h
      · cases h
        exact .inl ⟨_, rfl⟩
      · rename_i next _
        cases hnext : url.checkNext next with
        | ok => simp [hnext, Except.mapError] at h
        | error what =>
          simp only [hnext, Except.mapError, Except.error.injEq] at h
          exact .inr ⟨_, h.symm⟩
    · cases h

theorem Answer.ofReply_cases (url : Web.Url) (reply : Reply) :
    (∃ told, reply = .response told ∧ Answer.ofReply url reply = .response told) ∨
      (∃ reason, Answer.ofReply url reply = .broken reason) ∨
      ∃ fault, Answer.ofReply url reply = .fault fault := by
  cases reply with
  | response told =>
    simp only [Answer.ofReply]
    cases url.checkScheme with
    | error what => exact .inr (.inr ⟨_, rfl⟩)
    | ok =>
      cases hmove : checkMove url told with
      | error answer => exact .inr (checkMove_eq_error hmove)
      | ok => exact .inl ⟨told, rfl, rfl⟩
  | broken reason detail => exact .inr (.inl ⟨reason, rfl⟩)
  | fault what => exact .inr (.inr ⟨what, rfl⟩)

variable [AddCommGroup τ] [LinearOrder τ] [IsOrderedAddMonoid τ]

namespace Session

variable {limit : τ}

omit [IsOrderedAddMonoid τ] in
theorem timeTaken_lt {latency : Option τ} (hlimit : 0 < limit)
    (h : (timeTaken limit latency).1 = true) : (timeTaken limit latency).2 < limit := by
  cases latency with
  | none => exact hlimit
  | some latency =>
    unfold timeTaken at h ⊢
    dsimp only at h ⊢
    split at h
    · rename_i htime
      rw [if_pos htime]
      exact htime
    · cases h

omit [IsOrderedAddMonoid τ] in
theorem timeTaken_of_late {latency : Option τ} (h : (timeTaken limit latency).1 = false) :
    (timeTaken limit latency).2 = limit := by
  cases latency with
  | none => cases h
  | some latency =>
    unfold timeTaken at h ⊢
    dsimp only at h ⊢
    split at h
    · cases h
    · rename_i htime
      rw [if_neg htime]

end Session

namespace Execution

variable {e : Execution τ} {s : Session τ} {errand : Errand} {x : Exchange τ} {script : Script τ}

theorem add_remaining (now deadline : τ) : now + max 0 (deadline - now) = max now deadline := by
  rw [← max_add_add_left, add_zero, add_sub_cancel]

/-- **What is answered is over before the deadline.** -/
theorem endedAt_lt_of_answered (h : s.exchange e.connection (e.limit s.now) errand = (x, script))
    (hanswer : x.answer ≠ .timedOut) : x.endedAt < e.deadlineAt := by
  rcases Session.exchange_cases h with ⟨-, rfl, -⟩ | ⟨hlimit, fault, -, rfl, -⟩ |
    ⟨hlimit, url, -, rfl, -⟩
  · exact absurd rfl hanswer
  · exact lt_deadline_of_limit hlimit
  · have htime : (Session.timeTaken (e.limit s.now) (s.script.next errand url).1.latency).1 =
        true := by
      by_contra hlate
      exact hanswer (if_neg hlate)
    calc s.now + (Session.timeTaken (e.limit s.now) (s.script.next errand url).1.latency).2
        < s.now + e.limit s.now := by
          exact add_lt_add_right (Session.timeTaken_lt (not_le.mp hlimit) htime) _
      _ ≤ s.now + max 0 (e.limit s.now) := by exact add_le_add_right (le_max_right _ _) _
      _ ≤ max s.now e.deadlineAt := add_limit_le
      _ = e.deadlineAt := max_eq_right (lt_deadline_of_limit hlimit).le

/-- **A request that the deadline cuts short ends with it.** -/
theorem endedAt_eq_of_hurried (h : s.exchange e.connection (e.limit s.now) errand = (x, script))
    (hanswer : x.answer = .timedOut) (hhurried : e.Hurried x) :
    x.endedAt = max s.now e.deadlineAt := by
  have hlimit : e.limit s.now = max 0 (e.deadlineAt - s.now) := by
    rw [Hurried, Session.startedAt_of_exchange h, later_eq_max] at hhurried
    rw [limit, Client.limitAt_eq_min]
    exact min_eq_left hhurried.le
  rcases Session.exchange_cases h with ⟨hnone, rfl, -⟩ | ⟨-, fault, -, rfl, -⟩ |
    ⟨-, url, -, rfl, -⟩
  · rw [hlimit, max_le_iff, sub_nonpos] at hnone
    exact (max_eq_left hnone.2).symm
  · cases hanswer
  · have hlate : (Session.timeTaken (e.limit s.now) (s.script.next errand url).1.latency).1 =
        false := by
      by_contra htime
      dsimp only at hanswer
      rw [if_pos (Bool.not_eq_false _ ▸ htime)] at hanswer
      rcases Answer.ofReply_cases url (s.script.next errand url).1.reply with
        ⟨_, -, heq⟩ | ⟨_, heq⟩ | ⟨_, heq⟩ <;> simp [heq] at hanswer
    dsimp only
    rw [Session.timeTaken_of_late hlate, hlimit, add_remaining]

omit [IsOrderedAddMonoid τ] in
/-- A request that brought no handle ends in a timeout only if the deadline cut it short. -/
theorem EndsIn.hurried {before : List (Exchange τ)} {outcome : Except Stop Result}
    (h : e.EndsIn before x outcome) (hkind : OfKind .timeout outcome) (hnone : x.handle? = none) :
    x.answer = .timedOut ∧ e.Hurried x := by
  have hv : Verdict.ofOutcome? outcome = some .overdue :=
    (Verdict.ofOutcome_eq_kind rfl).mpr hkind
  obtain ⟨-, hlate | ⟨handle, hhandle, -⟩⟩ := (h.verdict_iff .overdue).mp hv
  · exact hlate
  · rw [hnone] at hhandle
    cases hhandle

end Execution

variable [Timeline τ]

/-! ### Courses and the deadline -/

namespace Course

variable {e : Execution τ} {start s : Session τ} {xs : List (Exchange τ)} {stage : Stage}
  {handle : Handle}

theorem endedAt_lt {x : Exchange τ} (h : Course e start xs stage s) (hx : x ∈ xs)
    (hcancels : ¬ x.Cancels) (hanswer : x.answer ≠ .timedOut) : x.endedAt < e.deadlineAt := by
  obtain ⟨_, stage', s', limit, script, -, -, hasks, hmade⟩ := h.made hx
  obtain rfl := Execution.asks_limit hasks fun id herrand => hcancels ⟨id, herrand⟩
  exact Execution.endedAt_lt_of_answered hmade hanswer

/-- **After an answer the clock stands before the deadline**, but for a pause. -/
theorem now_lt {x : Exchange τ} (h : Course e start xs stage s) (hlast : xs.getLast? = some x)
    (hcancels : ¬ x.Cancels) (hanswer : x.answer ≠ .timedOut)
    (hasking : ∀ handle polls, stage ≠ .asking handle polls)
    (hexpiring : ∀ handle, stage ≠ .expiring handle) : s.now < e.deadlineAt := by
  rw [h.now_eq_endedAt hlast hasking hexpiring]
  exact h.endedAt_lt (List.mem_of_getLast? hlast) hcancels hanswer

theorem now_lt_of_pages {result : Progress} (h : Course e start xs stage s)
    (pages : Pages e.order xs result) (hasking : ∀ handle polls, stage ≠ .asking handle polls)
    (hexpiring : ∀ handle, stage ≠ .expiring handle) : s.now < e.deadlineAt := by
  obtain ⟨x, hlast, hannounced⟩ := pages.latest
  obtain ⟨response, hresponse⟩ := pages.answered x (List.mem_of_getLast? hlast)
  exact h.now_lt hlast (Exchange.not_cancels_of_announced hannounced) (by simp [hresponse])
    hasking hexpiring

omit [IsOrderedAddMonoid τ] in
theorem eq_start (h : Course e start xs .submitting s) : s = start := by
  rcases h.first with ⟨-, -, hs⟩ | ⟨x, rest, script, rfl, -⟩
  · exact hs
  · have hnone : x :: rest = [] := h.history
    cases hnone

theorem start_lt {x : Exchange τ} {response : Response} (h : Course e start xs stage s)
    (hx : x ∈ xs) (hsubmit : x.errand = .submit e.order)
    (hresponse : x.answer = .response response) : start.now < e.deadlineAt := by
  obtain ⟨_, stage', s', limit, script, -, hprior, hasks, hmade⟩ := h.made hx
  rw [hsubmit] at hasks
  have hsubmitting : stage' = .submitting := by
    cases stage' with
    | submitting => rfl
    | asking last polls => simp [Execution.asks] at hasks
    | reading result => simp [Execution.asks] at hasks
    | expiring last => cases hasks
    | waiting last polls => cases hasks
    | finished outcome => cases hasks
  subst hsubmitting
  obtain rfl := hprior.eq_start
  obtain rfl := Execution.asks_limit hasks (by simp)
  exact Execution.lt_deadline_of_limit
    (Session.limit_of_sent hmade (Session.sent_of_response hmade hresponse))

theorem start_lt_of_asks {limit : τ} {errand : Errand} (h : Course e start xs stage s)
    (hasks : e.asks s.now stage = some (limit, errand)) (hstage : stage ≠ .submitting) :
    start.now < e.deadlineAt := by
  have hsubmitted : ∃ x ∈ xs, x.errand = .submit e.order ∧
      ∃ response, x.answer = .response response := by
    cases stage with
    | submitting => exact absurd rfl hstage
    | asking handle polls => exact Heard.submitted h.history.1
    | expiring handle => exact Execution.Late.submitted h.history
    | reading result => exact Pages.submitted h.history
    | waiting handle polls => cases hasks
    | finished outcome => cases hasks
  obtain ⟨x, hx, hsubmit, response, hresponse⟩ := hsubmitted
  exact h.start_lt hx hsubmit hresponse

/-- **A statement is cancelled at its deadline**, neither sooner nor later. -/
theorem expiring_now (h : Course e start xs (.expiring handle) s) : s.now = e.deadlineAt := by
  have hnone := h.uncancelled fun outcome => by simp
  have hclock := h.punctual.uncancelled hnone
  rw [max_eq_right (h.start_lt_of_asks rfl (by simp)).le] at hclock
  rcases h.expiring_cases with ⟨polls, -, hdue⟩ |
    ⟨polls, phase, prior, x, before, script, -, -, htime, hmade, hlate, hnow⟩
  · exact le_antisymm hclock hdue
  · have herrand := Session.errand_of_exchange hmade
    have hends : e.EndsIn prior x (.error (.failure (.pastDeadline phase))) :=
      Execution.endsIn_of_polled herrand hlate
    obtain ⟨hanswer, hhurried⟩ := hends.hurried ⟨_, rfl, rfl⟩
      (Execution.handle_eq_none_of_polled herrand hlate)
    rw [hnow, Execution.endedAt_eq_of_hurried hmade hanswer hhurried,
      max_eq_right (not_le.mp htime).le]

end Course

end Indicator.Warehouse
