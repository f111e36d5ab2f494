import Mathlib.Algebra.Order.Group.Defs
import Mathlib.Algebra.Order.Group.Unbundled.Basic
import Mathlib.Algebra.Order.Monoid.Unbundled.MinMax
import Indicator.Proofs.Warehouse.Course
import Indicator.Proofs.Warehouse.Exact

/-!
# The deadline of an execution

With exact times, what an execution does before its deadline also ends before it, and only the
cancellation is still under way after it.

* `Session.endedAt_le`: a request takes no longer than its limit.
* `Punctual now deadline httpTimeout xs clock`: the requests of an execution that started at `now`
  keep the deadline, and so does the clock after them.
* `Course.punctual`: **a course is punctual.** `Client.execute_punctual`: so is an execution, and
  each of its pauses.
-/

namespace Indicator.Warehouse

variable {τ : Type} [AddCommGroup τ] [LinearOrder τ] [IsOrderedAddMonoid τ]

/-! ### Limits -/

omit [AddCommGroup τ] [IsOrderedAddMonoid τ] in
theorem later_eq_max (a b : τ) : later a b = max a b := by
  unfold later
  split
  · rename_i h
    exact (max_eq_right h.le).symm
  · rename_i h
    exact (max_eq_left (not_lt.mp h)).symm

omit [AddCommGroup τ] [IsOrderedAddMonoid τ] in
theorem sooner_eq_min (a b : τ) : sooner a b = min a b := by
  unfold sooner
  split
  · rename_i h
    exact (min_eq_right h.le).symm
  · rename_i h
    exact (min_eq_left (not_lt.mp h)).symm

namespace Session

variable {s : Session τ} {connection : Connection} {limit : τ} {errand : Errand} {x : Exchange τ}
  {script : Script τ}

omit [IsOrderedAddMonoid τ] in
theorem timeTaken_le (hlimit : 0 < limit) (latency : Option τ) :
    (timeTaken limit latency).2 ≤ limit := by
  cases latency with
  | none => exact hlimit.le
  | some latency =>
    unfold timeTaken
    dsimp only
    split
    · rename_i h
      exact h.le
    · exact le_rfl

/-- A request takes no longer than its limit, and no time if that has run out. -/
theorem endedAt_le (h : s.exchange connection limit errand = (x, script)) :
    x.endedAt ≤ x.startedAt + max 0 limit := by
  rcases exchange_cases h with ⟨-, rfl, -⟩ | ⟨-, fault, -, rfl, -⟩ | ⟨hlimit, url, -, rfl, -⟩
  · exact le_add_of_nonneg_right (le_max_left 0 limit)
  · exact le_add_of_nonneg_right (le_max_left 0 limit)
  · have htaken := timeTaken_le (not_le.mp hlimit) (s.script.next errand url).1.latency
    exact add_le_add_right (htaken.trans (le_max_right 0 limit)) s.now

theorem pause_now_le {deadline duration : τ} (h : duration ≤ deadline - s.now) :
    (s.pause duration).now ≤ max s.now deadline := by
  unfold pause
  split
  · exact (le_sub_iff_add_le'.mp h).trans (le_max_right _ _)
  · exact le_max_left _ _

end Session

omit [IsOrderedAddMonoid τ] in
theorem Client.limitAt_eq_min (client : Client τ) (deadline now : τ) :
    (client.limitAt (some deadline) now).1 = min (max 0 (deadline - now)) client.httpTimeout := by
  unfold limitAt
  dsimp only
  rw [later_eq_max]
  split
  · rename_i h
    exact (min_eq_left h.le).symm
  · rename_i h
    exact (min_eq_right (not_lt.mp h)).symm

namespace Execution

variable {e : Execution τ} {now : τ}

omit [IsOrderedAddMonoid τ] in
theorem limit_le_left : e.limit now ≤ max 0 (e.deadlineAt - now) := by
  rw [limit, Client.limitAt_eq_min]
  exact min_le_left _ _

omit [IsOrderedAddMonoid τ] in
theorem limit_le_httpTimeout : e.limit now ≤ e.client.httpTimeout := by
  rw [limit, Client.limitAt_eq_min]
  exact min_le_right _ _

/-- What is left before the deadline ends with it. -/
theorem add_limit_le : now + max 0 (e.limit now) ≤ max now e.deadlineAt := by
  have hleft : max 0 (e.limit now) ≤ max 0 (e.deadlineAt - now) :=
    max_le (le_max_left _ _) limit_le_left
  calc now + max 0 (e.limit now)
      ≤ now + max 0 (e.deadlineAt - now) := by exact add_le_add_right hleft now
    _ = max (now + 0) (now + (e.deadlineAt - now)) := (max_add_add_left now 0 _).symm
    _ = max now e.deadlineAt := by rw [add_zero, add_sub_cancel]

/-- A request that has time left starts before the deadline. -/
theorem lt_deadline_of_limit (h : ¬ e.limit now ≤ 0) : now < e.deadlineAt := by
  by_contra hlate
  have hspent : e.deadlineAt - now ≤ 0 := sub_nonpos.mpr (not_lt.mp hlate)
  refine h (limit_le_left.trans ?_)
  rw [max_eq_left hspent]

/-- What is done without a request takes no time past the deadline. -/
theorem rest_now_le (e : Execution τ) (s : Session τ) (stage : Stage) :
    (e.rest s stage).2.now ≤ max s.now e.deadlineAt := by
  cases stage with
  | waiting handle polls =>
    simp only [rest]
    split
    · cases e.job.interval with
      | ok interval =>
        refine Session.pause_now_le ?_
        rw [sooner_eq_min]
        exact min_le_right _ _
      | error fault => exact le_max_left _ _
    · exact le_max_left _ _
  | reading result =>
    simp only [rest]
    split
    · exact le_max_left _ _
    · exact le_max_left _ _
  | submitting => exact le_max_left _ _
  | asking handle polls => exact le_max_left _ _
  | expiring handle => exact le_max_left _ _
  | finished outcome => exact le_max_left _ _

end Execution

/-! ### Punctual courses -/

/-- **The requests of an execution keep its deadline**, and so does the clock after them. Only the
cancellation may be under way after the deadline, and nothing comes after it. -/
structure Punctual (now deadline httpTimeout : τ) (xs : List (Exchange τ)) (clock : τ) : Prop where
  sent : ∀ x ∈ xs, ¬ x.Cancels → x.url.isSome → x.startedAt < deadline
  ended : ∀ x ∈ xs, ¬ x.Cancels → x.endedAt ≤ max now deadline
  bounded : ∀ x ∈ xs, x.endedAt ≤ x.startedAt + max 0 httpTimeout
  uncancelled : (∀ x ∈ xs, ¬ x.Cancels) → clock ≤ max now deadline
  cancelled : ∀ before x after, xs = before ++ x :: after → x.Cancels →
    (∀ y ∈ before, ¬ y.Cancels) ∧ after = [] ∧ x.startedAt ≤ max now deadline ∧ x.endedAt = clock
  clock_le : clock ≤ max now deadline + max 0 httpTimeout

namespace Punctual

variable {now deadline httpTimeout clock : τ} {xs : List (Exchange τ)} {x : Exchange τ}

theorem begin (now deadline httpTimeout : τ) :
    Punctual now deadline httpTimeout ([] : List (Exchange τ)) now where
  sent := by simp
  ended := by simp
  bounded := by simp
  uncancelled _ := le_max_left _ _
  cancelled before x after h := by simp at h
  clock_le := (le_max_left _ _).trans (le_add_of_nonneg_right (le_max_left _ _))

theorem ask (h : Punctual now deadline httpTimeout xs clock) (hopen : ∀ y ∈ xs, ¬ y.Cancels)
    (hcancels : ¬ x.Cancels) (hstart : x.url.isSome → x.startedAt < deadline)
    (hend : x.endedAt ≤ max now deadline) (hbound : x.endedAt ≤ x.startedAt + max 0 httpTimeout) :
    Punctual now deadline httpTimeout (xs ++ [x]) x.endedAt where
  sent := by
    simp only [List.forall_mem_append, List.forall_mem_singleton]
    exact ⟨h.sent, fun _ => hstart⟩
  ended := by
    simp only [List.forall_mem_append, List.forall_mem_singleton]
    exact ⟨h.ended, fun _ => hend⟩
  bounded := by
    simp only [List.forall_mem_append, List.forall_mem_singleton]
    exact ⟨h.bounded, hbound⟩
  uncancelled _ := hend
  cancelled before y after heq hy := by
    have hmem : y ∈ xs ++ [x] := by
      rw [heq]
      simp
    rcases List.mem_append.mp hmem with hmem | hmem
    · exact absurd hy (hopen y hmem)
    · rw [List.mem_singleton.mp hmem] at hy
      exact absurd hy hcancels
  clock_le := hend.trans (le_add_of_nonneg_right (le_max_left _ _))

theorem cancel (h : Punctual now deadline httpTimeout xs clock) (hopen : ∀ y ∈ xs, ¬ y.Cancels)
    (hcancels : x.Cancels) (hstart : x.startedAt = clock)
    (hbound : x.endedAt ≤ x.startedAt + max 0 httpTimeout) :
    Punctual now deadline httpTimeout (xs ++ [x]) x.endedAt where
  sent := by
    simp only [List.forall_mem_append, List.forall_mem_singleton]
    exact ⟨h.sent, fun hnot => absurd hcancels hnot⟩
  ended := by
    simp only [List.forall_mem_append, List.forall_mem_singleton]
    exact ⟨h.ended, fun hnot => absurd hcancels hnot⟩
  bounded := by
    simp only [List.forall_mem_append, List.forall_mem_singleton]
    exact ⟨h.bounded, hbound⟩
  uncancelled hnone := absurd hcancels (hnone x (by simp))
  cancelled before y after heq hy := by
    have hlate : x.startedAt ≤ max now deadline := by
      rw [hstart]
      exact h.uncancelled hopen
    rcases List.append_eq_append_iff.mp heq with ⟨more, hbefore, hlast⟩ | ⟨more, hxs, hrest⟩
    · cases more with
      | nil =>
        obtain ⟨rfl, rfl⟩ : x = y ∧ after = [] := by simpa using hlast
        rw [List.append_nil] at hbefore
        rw [hbefore]
        exact ⟨hopen, rfl, hlate, rfl⟩
      | cons z more => simp at hlast
    · cases more with
      | nil =>
        obtain ⟨rfl, rfl⟩ : y = x ∧ after = [] := by simpa using hrest
        rw [List.append_nil] at hxs
        rw [← hxs]
        exact ⟨hopen, rfl, hlate, rfl⟩
      | cons z more =>
        rw [List.cons_append, List.cons.injEq] at hrest
        have hmem : y ∈ xs := by
          rw [hxs, hrest.1]
          simp
        exact absurd hy (hopen y hmem)
  clock_le := by
    have hlate : x.startedAt ≤ max now deadline := by
      rw [hstart]
      exact h.uncancelled hopen
    exact hbound.trans (add_le_add_left hlate _)

theorem wait (h : Punctual now deadline httpTimeout xs clock) (hopen : ∀ y ∈ xs, ¬ y.Cancels)
    {later : τ} (hlater : later ≤ max clock deadline) :
    Punctual now deadline httpTimeout xs later := by
  have hclock := h.uncancelled hopen
  have hend : later ≤ max now deadline := hlater.trans (max_le hclock (le_max_right _ _))
  refine ⟨h.sent, h.ended, h.bounded, fun _ => hend, ?_, ?_⟩
  · intro before x after heq hcancels
    refine absurd hcancels (hopen x ?_)
    rw [heq]
    simp
  · exact hend.trans (le_add_of_nonneg_right (le_max_left _ _))

end Punctual

variable [Timeline τ]

namespace Course

variable {e : Execution τ} {start s : Session τ} {xs : List (Exchange τ)} {stage : Stage}

/-- **A course is punctual.** -/
theorem punctual (h : Course e start xs stage s) :
    Punctual start.now e.deadlineAt e.client.httpTimeout xs s.now := by
  induction h with
  | begin => exact .begin _ _ _
  | @ask xs stage s limit errand x script prior asks made ih =>
    have hopen : ∀ outcome, stage ≠ .finished outcome := by
      rintro outcome rfl
      cases asks
    have hnone := prior.uncancelled hopen
    have hstart := Session.startedAt_of_exchange made
    have herrand := Session.errand_of_exchange made
    have hend := Session.endedAt_le made
    by_cases hcancels : x.Cancels
    · obtain ⟨id, hid⟩ := hcancels
      rw [herrand] at hid
      subst hid
      obtain ⟨rfl, -⟩ := Execution.asks_cancel asks
      exact ih.cancel hnone ⟨id, herrand⟩ hstart hend
    · have hlimit : limit = e.limit s.now := by
        refine Execution.asks_limit asks ?_
        rintro id rfl
        exact hcancels ⟨id, herrand⟩
      rw [hlimit] at made hend
      have hclock := ih.uncancelled hnone
      refine ih.ask hnone hcancels ?_ ?_ ?_
      · intro hsent
        rw [hstart]
        exact Execution.lt_deadline_of_limit (Session.limit_of_sent made hsent)
      · rw [hstart] at hend
        exact hend.trans (Execution.add_limit_le.trans (max_le hclock (le_max_right _ _)))
      · have hle : max 0 (e.limit s.now) ≤ max 0 e.client.httpTimeout :=
          max_le_max_left 0 Execution.limit_le_httpTimeout
        exact hend.trans (add_le_add_right hle _)
  | @rest xs stage s prior asks ih =>
    by_cases hfinished : ∃ outcome, stage = .finished outcome
    · obtain ⟨outcome, rfl⟩ := hfinished
      exact ih
    · have hopen : ∀ outcome, stage ≠ .finished outcome := by
        rintro outcome rfl
        exact hfinished ⟨outcome, rfl⟩
      exact ih.wait (prior.uncancelled hopen) (e.rest_now_le s stage)

theorem pause_le {handle : Handle} {polls : Nat} (h : Course e start xs (.waiting handle polls) s) :
    (e.step (.waiting handle polls, s)).2.now ≤ max start.now e.deadlineAt := by
  have hnone := h.uncancelled fun outcome => by simp
  have hclock := h.punctual.uncancelled hnone
  have hrest : e.step (.waiting handle polls, s) = e.rest s (.waiting handle polls) :=
    Execution.step_rest rfl
  rw [hrest]
  exact (e.rest_now_le s _).trans (max_le hclock (le_max_right _ _))

end Course

/-! ### Executions -/

namespace Client

/-- **An execution keeps its deadline**: each of its requests and pauses does, and with it the clock
at the end. -/
theorem execute_punctual (client : Client τ) (job : Job τ) (s : Session τ) (patience : Nat) :
    (∃ xs, (client.execute patience job s).2.exchanges = s.exchanges ++ xs ∧
      Punctual s.now (s.now + job.deadline) client.httpTimeout xs
        (client.execute patience job s).2.now) ∧
    (∀ connection steps handle polls paused,
      (client.execution connection job s).run steps (.submitting, s) =
        (.waiting handle polls, paused) →
      ((client.execution connection job s).step (.waiting handle polls, paused)).2.now ≤
        max s.now (s.now + job.deadline)) := by
  constructor
  · rcases execute_course client job s patience with ⟨failure, -, heq⟩ | ⟨fault, -, -, heq⟩ |
      ⟨connection, xs, stage, ended, -, -, hcourse, heq⟩
    · rw [heq]
      exact ⟨[], by simp, .begin _ _ _⟩
    · rw [heq]
      exact ⟨[], by simp, .begin _ _ _⟩
    · rw [heq]
      exact ⟨xs, hcourse.exchanges_eq, hcourse.punctual⟩
  · intro connection steps handle polls paused hrun
    have hbegin : Course (client.execution connection job s) s [] .submitting s := .begin
    obtain ⟨xs, hcourse⟩ := hbegin.run steps
    rw [hrun] at hcourse
    exact hcourse.pause_le

theorem pendingSession_waiting : ∃ handle paused,
    (exactClient.execution exactConnection exactJob pendingSession).run 1
      (.submitting, pendingSession) = (.waiting handle 0, paused) := by
  have hlimit : ¬ (exactClient.execution exactConnection exactJob pendingSession).limit
      pendingSession.now ≤ 0 := by
    decide +kernel
  have htime : (Session.timeTaken ((exactClient.execution exactConnection exactJob
      pendingSession).limit pendingSession.now) (some (1 / 10 : Rat))).1 = true := by
    decide +kernel
  obtain ⟨x, script, hmade⟩ : ∃ x script, pendingSession.exchange exactConnection
      ((exactClient.execution exactConnection exactJob pendingSession).limit pendingSession.now)
      (.submit (exactClient.order exactJob.statement)) = (x, script) := ⟨_, _, rfl⟩
  have hanswer : x.answer = .response ⟨200, none, .ofDocument (.object
      [("statement_id", .str "stmt-1"), ("status", .object [("state", .str "PENDING")])])⟩ := by
    have hscheme : exactAddress.checkScheme = .ok () := by rfl
    rw [Session.answer_of_reply hlimit exactConnection_address hmade htime]
    show Answer.ofReply exactAddress (.response _) = _
    rw [Answer.ofReply, hscheme]
    rfl
  obtain ⟨handle, hsubmitted, hstate⟩ : ∃ handle,
      (exactClient.execution exactConnection exactJob pendingSession).submitted x = .ok handle ∧
        handle.state = .pending := by
    unfold Execution.submitted documentOf responseOf
    rw [hanswer]
    exact ⟨_, rfl, rfl⟩
  have hfailed : ¬ handle.state = .failed := by
    rw [hstate]
    decide
  have hpassing : ¬ handle.state.isTerminal = true := by
    rw [hstate]
    decide
  have hstep := Execution.submit_of_exchange
    (e := exactClient.execution exactConnection exactJob pendingSession) hmade
  refine ⟨handle, (pendingSession.after x script).noteAll exactJob.correlation
    [.submitted handle.statementId handle.state], ?_⟩
  rw [Execution.run_succ, hstep]
  simp only [Execution.react, hsubmitted, if_neg hfailed, Stage.ofHandle, if_neg hpassing]
  rfl

/-- The first pause of an execution of ten seconds ends within them, and so does all else that is
done without a cancellation. -/
theorem execute_punctual_pending :
    ∃ xs handle paused,
      (exactClient.execute 50 exactJob pendingSession).2.exchanges =
        pendingSession.exchanges ++ xs ∧
      Punctual pendingSession.now (pendingSession.now + exactJob.deadline)
        exactClient.httpTimeout xs (exactClient.execute 50 exactJob pendingSession).2.now ∧
      (exactClient.execution exactConnection exactJob pendingSession).run 1
        (.submitting, pendingSession) = (.waiting handle 0, paused) ∧
      ((exactClient.execution exactConnection exactJob pendingSession).step
        (.waiting handle 0, paused)).2.now ≤
          max pendingSession.now (pendingSession.now + exactJob.deadline) := by
  obtain ⟨handle, paused, hrun⟩ := pendingSession_waiting
  obtain ⟨⟨xs, hmade, hpunctual⟩, hpauses⟩ :=
    execute_punctual exactClient exactJob pendingSession 50
  exact ⟨xs, handle, paused, hmade, hpunctual, hrun,
    hpauses exactConnection 1 handle 0 paused hrun⟩

omit [IsOrderedAddMonoid τ] [Timeline τ] in
/-- With exact times the deadline is spent at once exactly if it is not positive. -/
theorem spent_iff {client : Client τ} {job : Job τ} {s : Session τ}
    (htimeout : 0 < client.httpTimeout) : client.Spent job s ↔ job.deadline ≤ 0 := by
  rw [Spent, limitAt_eq_min, add_sub_cancel_left, min_le_iff, max_le_iff]
  constructor
  · rintro (⟨-, hspent⟩ | hnone)
    · exact hspent
    · exact absurd htimeout (not_lt.mpr hnone)
  · intro hspent
    exact .inl ⟨le_rfl, hspent⟩

end Client

end Indicator.Warehouse
