import Indicator.Proofs.Warehouse.Clock

/-!
# The pace of questions

With exact times and an interval that is positive, a question after the state follows the answer
before it by the interval exactly, so that only so many questions fit before the deadline.

* `Script.Causal`: no reply comes before it was asked for.
* `Execution.now_of_pause`: a pause takes the interval, unless the deadline comes first.
* `Course.paced`: **each question comes an interval after the last answer.**
* `Course.elapsed`, `Course.polls_lt`: the questions that were asked took that many intervals, and
  all of them before the deadline.
-/

namespace Indicator.Warehouse

variable {τ : Type} [AddCommGroup τ] [LinearOrder τ] [IsOrderedAddMonoid τ]

/-! ### Causal scripts -/

/-- **A causal script.** No reply comes before it was asked for. -/
def Script.Causal (script : Script τ) : Prop :=
  ∀ scheduled, scheduled ∈ script.replies ∨ script.cancelReply = some scheduled →
    ∀ latency, scheduled.latency = some latency → 0 ≤ latency

omit [IsOrderedAddMonoid τ] in
theorem Script.Causal.of_later {script later : Script τ} (h : script.Causal)
    (hlater : script.Leaves later) : later.Causal := by
  intro scheduled hscheduled
  refine h scheduled ?_
  rcases hscheduled with hmem | hcancel
  · exact .inl (hlater.replies hmem)
  · exact .inr (hlater.cancelReply ▸ hcancel)

omit [IsOrderedAddMonoid τ] in
theorem Script.Causal.next {script : Script τ} (h : script.Causal) (errand : Errand)
    (url : Web.Url) {latency : τ} (hlatency : (script.next errand url).1.latency = some latency) :
    0 ≤ latency := by
  rcases script.next_cases errand url with hmem | hnone | ⟨-, hcancel⟩
  · exact h _ (.inl hmem) latency hlatency
  · rw [hnone] at hlatency
    cases hlatency
  · exact h _ (.inr hcancel) latency hlatency

namespace Session

variable {s : Session τ} {connection : Connection} {limit : τ} {errand : Errand} {x : Exchange τ}
  {script : Script τ}

omit [IsOrderedAddMonoid τ] in
theorem timeTaken_nonneg {latency : Option τ} (hlimit : 0 < limit)
    (h : ∀ taken, latency = some taken → 0 ≤ taken) : 0 ≤ (timeTaken limit latency).2 := by
  cases latency with
  | none => exact le_rfl
  | some latency =>
    unfold timeTaken
    dsimp only
    split
    · exact h latency rfl
    · exact hlimit.le

theorem startedAt_le (h : s.exchange connection limit errand = (x, script))
    (hcausal : s.script.Causal) : x.startedAt ≤ x.endedAt := by
  rcases exchange_cases h with ⟨-, rfl, -⟩ | ⟨-, fault, -, rfl, -⟩ | ⟨hlimit, url, -, rfl, -⟩
  · exact le_rfl
  · exact le_rfl
  · exact le_add_of_nonneg_right (timeTaken_nonneg (not_le.mp hlimit) fun taken htaken =>
      hcausal.next errand url htaken)

end Session

variable [Timeline τ]

/-! ### Pauses -/

omit [Timeline τ] in
/-- **A pause takes the interval**, unless the deadline comes first. -/
theorem Execution.now_of_pause {e : Execution τ} {s s' : Session τ} {interval : τ} {handle : Handle}
    {polls : Nat} (hinterval : e.job.interval = .ok interval) (hpositive : 0 < interval)
    (h : e.rest s (.waiting handle polls) = (.asking handle polls, s'))
    (htime : s'.now < e.deadlineAt) : s'.now = s.now + interval := by
  simp only [rest, hinterval] at h
  split at h
  · rename_i hleft
    obtain rfl : s.pause (sooner interval (e.deadlineAt - s.now)) = s' := by simpa using h
    rw [sooner_eq_min] at htime ⊢
    have hpause : (s.pause (min interval (e.deadlineAt - s.now))).now =
        s.now + min interval (e.deadlineAt - s.now) := by
      rw [Session.pause, if_pos (lt_min hpositive hleft)]
    rw [hpause, ← lt_sub_iff_add_lt', min_lt_iff] at htime
    rw [hpause, min_eq_left (htime.resolve_right (lt_irrefl _)).le]
  · rename_i hspent
    obtain rfl : s = s' := by simpa using h
    exact absurd (sub_pos.mpr htime) hspent

/-! ### Questions -/

/-- The questions asked so far took that many intervals, and the next one another. -/
def Stage.Elapsed (start deadline interval now : τ) : Stage → Prop
  | .waiting _ polls => start + polls • interval ≤ now
  | .asking _ polls => now < deadline → start + (polls + 1) • interval ≤ now
  | _ => True

omit [IsOrderedAddMonoid τ] [Timeline τ] in
theorem Stage.elapsed_ofHandle {start deadline interval now : τ} {handle : Handle} {polls : Nat}
    (h : start + polls • interval ≤ now) :
    (Stage.ofHandle handle polls).Elapsed start deadline interval now := by
  rcases Stage.ofHandle_cases handle polls with heq | ⟨_, _, heq⟩ | ⟨_, heq⟩
  · rw [heq]
    exact h
  · rw [heq]
    trivial
  · rw [heq]
    trivial

namespace Course

variable {e : Execution τ} {start s : Session τ} {xs : List (Exchange τ)} {stage : Stage}
  {interval : τ}

/-- **Each question comes an interval after the last answer.** -/
theorem paced (hinterval : e.job.interval = .ok interval) (hpositive : 0 < interval)
    {before after : List (Exchange τ)} {x : Exchange τ} {id : String}
    (h : Course e start (before ++ x :: after) stage s) (herrand : x.errand = .poll id) :
    ∃ y response, before.getLast? = some y ∧ y.answer = .response response ∧
      x.startedAt = y.endedAt + interval := by
  obtain ⟨stage', s', limit, script, hprior, hasks, hmade⟩ := h.split
  rw [herrand] at hasks
  cases stage' with
  | asking handle polls =>
    simp only [Execution.asks, Option.ite_none_left_eq_some] at hasks
    obtain ⟨paused, hwaiting, hrest⟩ := hprior.asking_cases
    have heard : Heard e.order before handle polls := hwaiting.history.1
    obtain ⟨y, hlast, hbrought⟩ := heard.latest
    obtain ⟨response, hresponse⟩ := Exchange.response_of_handle hbrought
    refine ⟨y, response, hlast, hresponse, ?_⟩
    rw [Session.startedAt_of_exchange hmade,
      Execution.now_of_pause hinterval hpositive hrest (not_le.mp hasks.1),
      hwaiting.now_eq_endedAt hlast (by simp) (by simp)]
  | submitting => simp [Execution.asks] at hasks
  | reading result => simp [Execution.asks] at hasks
  | expiring handle => simp [Execution.asks] at hasks
  | waiting handle polls => cases hasks
  | finished outcome => cases hasks

/-- Each question so far took an interval. -/
theorem elapsed (hinterval : e.job.interval = .ok interval) (hpositive : 0 < interval)
    (hcausal : start.script.Causal) (h : Course e start xs stage s) :
    stage.Elapsed start.now e.deadlineAt interval s.now := by
  induction h with
  | begin => trivial
  | @ask xs stage s limit errand x script prior asks made ih =>
    have hstart := Session.startedAt_of_exchange made
    have hend := Session.startedAt_le made (hcausal.of_later prior.leaves)
    rw [hstart] at hend
    show (e.react x stage).1.Elapsed start.now e.deadlineAt interval x.endedAt
    cases stage with
    | submitting =>
      rw [prior.eq_start] at hend
      rcases e.react_submitting_cases x with ⟨handle, heq⟩ | ⟨outcome, heq⟩
      · rw [heq]
        exact Stage.elapsed_ofHandle (by simpa using hend)
      · rw [heq]
        trivial
    | asking handle polls =>
      simp only [Execution.asks, Option.ite_none_left_eq_some] at asks
      have hasked := ih (not_le.mp asks.1)
      rcases e.react_asking_cases x handle polls with ⟨next, heq⟩ | ⟨_, -, heq⟩ | ⟨_, heq⟩
      · rw [heq]
        exact Stage.elapsed_ofHandle (hasked.trans hend)
      · rw [heq]
        trivial
      · rw [heq]
        trivial
    | expiring handle =>
      obtain ⟨outcome, heq⟩ := e.react_cancel_finished x handle
      rw [heq]
      trivial
    | reading result =>
      rcases e.react_reading_cases x result with ⟨_, _, heq⟩ | ⟨_, heq⟩
      · rw [heq]
        trivial
      · rw [heq]
        trivial
    | waiting handle polls => cases asks
    | finished outcome => cases asks
  | @rest xs stage s prior asks ih =>
    cases stage with
    | waiting handle polls =>
      rcases e.rest_waiting_cases s handle polls with ⟨paused, heq⟩ | ⟨outcome, heq⟩
      · rw [heq]
        intro htime
        rw [Execution.now_of_pause hinterval hpositive heq htime, succ_nsmul, ← add_assoc]
        exact add_le_add_left ih interval
      · rw [heq]
        trivial
    | asking handle polls => trivial
    | reading result =>
      simp only [Execution.rest]
      split <;> trivial
    | finished outcome => trivial
    | submitting => cases asks
    | expiring handle => cases asks

/-- **The questions fit before the deadline**, one after each interval. -/
theorem polls_lt (hinterval : e.job.interval = .ok interval) (hpositive : 0 < interval)
    (hcausal : start.script.Causal) (h : Course e start xs stage s)
    (hasked : 0 < xs.countP (·.errand.isPoll)) :
    start.now + xs.countP (·.errand.isPoll) • interval < e.deadlineAt := by
  induction h with
  | begin => simp at hasked
  | @ask xs stage s limit errand x script prior asks made ih =>
    have herrand := Session.errand_of_exchange made
    rw [List.countP_append, List.countP_singleton, herrand] at hasked ⊢
    cases stage with
    | asking handle polls =>
      simp only [Execution.asks, Option.ite_none_left_eq_some, Option.some.injEq,
        Prod.mk.injEq] at asks
      obtain ⟨htime, -, rfl⟩ := asks
      have heard : Heard e.order xs handle polls := prior.history.1
      rw [heard.countP_isPoll]
      exact (prior.elapsed hinterval hpositive hcausal (not_le.mp htime)).trans_lt
        (not_le.mp htime)
    | submitting =>
      cases asks
      exact ih hasked
    | expiring handle =>
      cases asks
      exact ih hasked
    | reading result =>
      simp only [Execution.asks, Option.ite_none_right_eq_some, Option.map_eq_some_iff,
        Prod.mk.injEq] at asks
      obtain ⟨-, link, -, -, rfl⟩ := asks
      exact ih hasked
    | waiting handle polls => cases asks
    | finished outcome => cases asks
  | rest _ _ ih => exact ih hasked

end Course

end Indicator.Warehouse
