import Indicator.Proofs.Warehouse.Clock
import Indicator.Proofs.Warehouse.Identity

/-!
# The instant of the deadline

A timeout is told at the deadline exactly, or at once if the deadline had passed at the start. What
was answered counts only before it.

* `Overrun`: what a timeout comes of. Either a statement was cancelled at that instant, or the
  submission or the request for a chunk ended at it.
* `Timely`: where the clock stands at an end, by its kind.
* `Client.execute_timely`: **every execution is timely.**
-/

namespace Indicator.Warehouse

variable {τ : Type}

/-! ### Ends and the clock -/

section

variable [LinearOrder τ]

/-- **How the deadline runs out**, and what the failure names that tells of it. -/
inductive Overrun (now deadline : τ) (limit : String) :
    List (Exchange τ) → τ → Failure → Prop
  /-- The statement is cancelled. The failure names it, and the last state that was heard of. -/
  | expired {before : List (Exchange τ)} {x : Exchange τ} {clock : τ} {handle : Handle}
      {failure : Failure} (uncancelled : ∀ y ∈ before, ¬ y.Cancels)
      (heard : (handles before).getLast? = some handle)
      (errand : x.errand = .cancel handle.statementId) (instant : x.startedAt = max now deadline)
      (failed : failure = .expired limit handle.statementId handle.state)
      (named : failure.details =
        [("statement_id", .str handle.statementId), ("last_state", .str handle.state.name)]) :
      Overrun now deadline limit (before ++ [x]) clock failure
  /-- The last request, for the submission or for a chunk, ends. The failure names its phase. -/
  | request {before : List (Exchange τ)} {x : Exchange τ} {clock : τ} {phase : Phase}
      {failure : Failure} (uncancelled : ∀ y ∈ before ++ [x], ¬ y.Cancels)
      (errand : (phase = .submit ∧ ∃ order, x.errand = .submit order) ∨
        (phase = .fetchChunk ∧ ∃ link, x.errand = .fetchChunk link))
      (instant : clock = max now deadline) (failed : failure = .pastDeadline phase)
      (named : failure.details = [("phase", .str phase.name)]) :
      Overrun now deadline limit (before ++ [x]) clock failure

/-- **Where the clock stands at the end of an execution** that started at `now`. -/
structure Timely (now deadline : τ) (limit : String) (xs : List (Exchange τ))
    (outcome : Except Stop Result) (clock : τ) : Prop where
  /-- A timeout is not told early. -/
  overrun : ∀ failure : Failure, outcome = .error (.failure failure) → failure.kind = .timeout →
    Overrun now deadline limit xs clock failure
  /-- A result is not told late. -/
  result : ∀ result, outcome = .ok result → clock < deadline
  /-- Nor is an end that the answer to the last request decides. -/
  answered : ∀ x, outcome ≠ .error .unfinished → xs.getLast? = some x → ¬ x.Cancels →
    x.answer ≠ .timedOut → clock < deadline

theorem timely_unfinished {now deadline : τ} {limit : String} {xs : List (Exchange τ)} {clock : τ} :
    Timely now deadline limit xs (.error .unfinished) clock where
  overrun failure hfailure := by cases hfailure
  result result hresult := by cases hresult
  answered x hover := absurd rfl hover

theorem timely_nil {now deadline : τ} {limit : String} {stop : Stop} {clock : τ}
    (h : ¬ TimedOut (.error stop)) :
    Timely now deadline limit ([] : List (Exchange τ)) (.error stop) clock where
  overrun failure hfailure hkind := absurd ⟨failure, hfailure, hkind⟩ h
  result result hresult := by cases hresult
  answered x _ hlast := by cases hlast

end

/-! ### Ends of courses -/

variable [AddCommGroup τ] [LinearOrder τ] [IsOrderedAddMonoid τ] [Timeline τ]

namespace Course

variable {e : Execution τ} {start s : Session τ} {xs before : List (Exchange τ)} {x : Exchange τ}
  {stage : Stage} {outcome : Except Stop Result}

/-- Whenever a request is made, the deadline is as far ahead as it was at the start. -/
theorem max_now_of_asks {limit : τ} {errand : Errand} (h : Course e start xs stage s)
    (hasks : e.asks s.now stage = some (limit, errand)) :
    max s.now e.deadlineAt = max start.now e.deadlineAt := by
  have hlate : stage ≠ .submitting → s.now ≤ e.deadlineAt →
      max s.now e.deadlineAt = max start.now e.deadlineAt := by
    intro hstage hle
    rw [max_eq_right hle, max_eq_right (h.start_lt_of_asks hasks hstage).le]
  cases stage with
  | submitting => rw [h.eq_start]
  | asking handle polls =>
    simp only [Execution.asks, Option.ite_none_left_eq_some] at hasks
    exact hlate (by simp) (not_le.mp hasks.1).le
  | expiring handle => exact hlate (by simp) h.expiring_now.le
  | reading result => exact hlate (by simp) (h.now_lt_of_pages h.history (by simp) (by simp)).le
  | waiting handle polls => cases hasks
  | finished outcome => cases hasks

omit [IsOrderedAddMonoid τ] in
theorem uncancelled_before (h : Course e start (before ++ [x]) stage s) :
    ∀ y ∈ before, ¬ y.Cancels := by
  obtain ⟨stage', s', limit, script, hprior, hasks, -⟩ := h.split
  refine hprior.uncancelled ?_
  rintro outcome rfl
  cases hasks

theorem startedAt_of_cancel (h : Course e start (before ++ [x]) stage s) (hcancels : x.Cancels) :
    x.startedAt = max start.now e.deadlineAt := by
  obtain ⟨id, herrand⟩ := hcancels
  obtain ⟨stage', s', limit, script, hprior, hasks, hmade⟩ := h.split
  have hnow := hprior.max_now_of_asks hasks
  rw [herrand] at hasks
  obtain ⟨-, handle, rfl⟩ := Execution.asks_cancel hasks
  rw [Session.startedAt_of_exchange hmade, ← hnow, hprior.expiring_now, max_self]

theorem endedAt_of_hurried (h : Course e start (before ++ [x]) stage s) (hcancels : ¬ x.Cancels)
    (hlate : x.answer = .timedOut ∧ e.Hurried x) : x.endedAt = max start.now e.deadlineAt := by
  obtain ⟨stage', s', limit, script, hprior, hasks, hmade⟩ := h.split
  have hnow := hprior.max_now_of_asks hasks
  obtain rfl := Execution.asks_limit hasks fun id herrand => hcancels ⟨id, herrand⟩
  rw [Execution.endedAt_eq_of_hurried hmade hlate.1 hlate.2, hnow]

theorem overrun_request {phase : Phase} (h : Course e start (before ++ [x]) (.finished outcome) s)
    (herrand : (phase = .submit ∧ ∃ order, x.errand = .submit order) ∨
      (phase = .fetchChunk ∧ ∃ link, x.errand = .fetchChunk link))
    (hends : e.EndsIn before x (.error (.failure (.pastDeadline phase))))
    (hnone : x.handle? = none) :
    Overrun start.now e.deadlineAt (Timeline.brief e.job.deadline) (before ++ [x]) s.now
      (.pastDeadline phase) := by
  have hcancels : ¬ x.Cancels := by
    rintro ⟨id, hid⟩
    rcases herrand with ⟨-, order, hsubmit⟩ | ⟨-, link, hfetch⟩
    · rw [hsubmit] at hid
      cases hid
    · rw [hfetch] at hid
      cases hid
  have hlate := hends.hurried ⟨_, rfl, rfl⟩ hnone
  have hnow : s.now = x.endedAt := h.now_eq_endedAt List.getLast?_concat (by simp) (by simp)
  refine .request ?_ herrand ?_ rfl rfl
  · simp only [List.forall_mem_append, List.forall_mem_singleton]
    exact ⟨h.uncancelled_before, hcancels⟩
  · rw [hnow]
    exact h.endedAt_of_hurried hcancels hlate

/-- **A timeout is told at the deadline.** -/
theorem overrun {failure : Failure}
    (h : Course e start xs (.finished (.error (.failure failure))) s)
    (hkind : failure.kind = .timeout) :
    Overrun start.now e.deadlineAt (Timeline.brief e.job.deadline) xs s.now failure := by
  have htimed : TimedOut (.error (.failure failure)) := ⟨failure, rfl, hkind⟩
  have hended : e.Ended xs (.error (.failure failure)) := h.history
  generalize houtcome : (Except.error (.failure failure) : Except Stop Result) = outcome at hended
  cases hended with
  | @unsubmitted x stop errand stopped =>
    cases houtcome
    have hnone := Execution.handle_eq_none_of_submitted errand stopped
    have hphase : failure = .pastDeadline .submit := by
      simpa using Client.pastDeadline_of_handle stopped htimed
    have hends : e.EndsIn [] x (.error (.failure failure)) :=
      Execution.endsIn_of_submitted errand stopped
    rw [← List.nil_append [x]] at h ⊢
    rw [hphase] at hends ⊢
    exact h.overrun_request (.inl ⟨rfl, e.order, errand⟩) hends hnone
  | unheard heard passing errand stopped early =>
    cases houtcome
    exact absurd (Execution.pastDeadline_of_polled stopped htimed) (early .poll)
  | @unfetched before result link x stop pages truthy announced errand stopped =>
    cases houtcome
    have hphase := Client.pastDeadline_of_timeout stopped hkind
    have hends : e.EndsIn before x (.error (.failure failure)) :=
      Execution.endsIn_of_documentOf stopped
    rw [hphase] at hends ⊢
    exact h.overrun_request (.inr ⟨rfl, link, errand⟩) hends
      (Exchange.handle_eq_none_of_fetch errand)
  | @expired before handle x late errand quiet =>
    cases houtcome
    exact .expired h.uncancelled_before late.getLast_handles errand
      (h.startedAt_of_cancel ⟨_, errand⟩) rfl rfl
  | rejected heard failed =>
    cases houtcome
    cases hkind
  | unsuccessful heard final unsuccessful accepted =>
    cases houtcome
    cases hkind
  | unpaged heard succeeded lacking =>
    cases houtcome
    cases hkind
  | unlinked pages truthy lacking =>
    cases houtcome
    cases hkind
  | unchunked pages truthy announced errand brought lacking =>
    cases houtcome
    cases hkind
  | unpaused heard passing interval => cases houtcome
  | complete pages last => cases houtcome
  | uncancelled late errand raised => cases houtcome

/-- **A course that has come to its end is timely.** -/
theorem timely (h : Course e start xs (.finished outcome) s) :
    Timely start.now e.deadlineAt (Timeline.brief e.job.deadline) xs outcome s.now where
  overrun failure houtcome hkind := by
    subst houtcome
    exact h.overrun hkind
  result result houtcome := by
    subst houtcome
    have hended : e.Ended xs (.ok result) := h.history
    generalize hresult : (Except.ok result : Except Stop Result) = outcome at hended
    cases hended with
    | complete pages last => exact h.now_lt_of_pages pages (by simp) (by simp)
    | _ => cases hresult
  answered x _ hlast hcancels hanswer :=
    h.now_lt hlast hcancels hanswer (by simp) (by simp)

end Course

/-! ### Executions -/

namespace Client

/-- **Every execution is timely**, whatever the warehouse answers and however long it takes, also
with a deadline that is not positive. -/
theorem execute_timely (client : Client τ) (job : Job τ) (s : Session τ) (patience : Nat) :
    ∃ xs, (client.execute patience job s).2.exchanges = s.exchanges ++ xs ∧
      Timely s.now (s.now + job.deadline) (Timeline.brief job.deadline) xs
        (client.execute patience job s).1 (client.execute patience job s).2.now := by
  rcases execute_course client job s patience with ⟨failure, hconf, heq⟩ | ⟨fault, -, -, heq⟩ |
    ⟨connection, xs, stage, ended, -, -, hcourse, heq⟩
  · rw [heq]
    refine ⟨[], by simp, timely_nil ?_⟩
    rintro ⟨found, hfound, hkind⟩
    cases hfound
    rw [checkConfigured_eq_error hconf] at hkind
    cases hkind
  · rw [heq]
    refine ⟨[], by simp, timely_nil ?_⟩
    rintro ⟨found, hfound, -⟩
    cases hfound
  · rw [heq]
    refine ⟨xs, hcourse.exchanges_eq, ?_⟩
    cases stage with
    | finished outcome => exact hcourse.timely
    | _ => exact timely_unfinished

/-- A statement that does not come to an end is cancelled after one second, if that is its
deadline. -/
theorem execute_timely_pending :
    ∃ before x,
      (exactClient.execute 12 { exactJob with deadline := 1 } pendingSession).2.exchanges =
        before ++ [x] ∧
      x.errand = .cancel "stmt-1" ∧ x.startedAt = 1 ∧
      (exactClient.execute 12 { exactJob with deadline := 1 } pendingSession).1 =
        .error (.failure (.expired "1" "stmt-1" .running)) := by
  obtain ⟨xs, hmade, htimely⟩ :=
    execute_timely exactClient { exactJob with deadline := 1 } pendingSession 12
  have hover : errorOf? (exactClient.execute 12 { exactJob with deadline := 1 } pendingSession).1 =
      some (.failure (.expired "1" "stmt-1" .running)) := by
    decide +kernel
  have hfailed := errorOf?_eq_some.mp hover
  have hinstant : max pendingSession.now (pendingSession.now + 1) = 1 := by decide +kernel
  rw [hmade]
  cases htimely.overrun _ hfailed rfl with
  | @expired before x _ handle _ _ _ errand instant failed _ =>
    obtain ⟨-, hid, -⟩ := Failure.expired.inj failed
    rw [← hid] at errand
    exact ⟨before, x, rfl, errand, instant.trans hinstant, hfailed⟩
  | request _ _ _ failed _ => cases failed

end Client

end Indicator.Warehouse
