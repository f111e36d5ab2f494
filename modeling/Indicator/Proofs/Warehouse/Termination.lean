import Mathlib.Algebra.Order.Archimedean.Basic
import Indicator.Proofs.Warehouse.Polling
import Indicator.Proofs.Warehouse.Rows

/-!
# Executions come to an end

Neither the questions after the state nor the requests for chunks are counted. The questions end
with the deadline, since each takes an interval; the chunks end with the links, since each is new
and a script of `n` replies holds `n` at most.

* `Script.links`: the links that a script can announce in chunks. `Course.fetches_le`: **one more
  chunk is asked for at most than there are replies.**
* `Stage.age`: the steps to a stage, unless the execution is about to be over. `Execution.run_age`:
  every step adds one.
* `Course.age_le`: the age is bounded by the intervals before the deadline and by the replies.
* `Client.execute_terminates`: **every execution comes to an end.**
-/

namespace Indicator.Warehouse

open Json (Document)

variable {τ : Type}

/-! ### Links in chunks -/

/-- The link that a reply announces to one who takes it for a chunk. -/
def Reply.chunkLink? : Reply → Option Document
  | .response told =>
    if told.status < 400 then
      told.body.document.toOption.bind fun document => (Stage.chunk? document).map (·.2)
    else none
  | _ => none

/-- The links that the replies of a script announce in chunks. -/
def Script.links (script : Script τ) : List Document :=
  script.replies.filterMap (·.reply.chunkLink?)

theorem Script.length_links_le (script : Script τ) :
    script.links.length ≤ script.replies.length := List.length_filterMap_le _ _

theorem Script.Leaves.links {script later : Script τ} (h : script.Leaves later) :
    later.links ⊆ script.links := List.filterMap_subset _ h.replies

theorem Session.link_of_chunk [Zero τ] [Add τ] [LT τ] [LE τ] [DecidableLT τ] [DecidableLE τ]
    {s : Session τ} {connection : Connection} {limit : τ} {link : String} {x : Exchange τ}
    {script : Script τ} {rows : List Document} {next : Document}
    (h : s.exchange connection limit (.fetchChunk link) = (x, script))
    (hbrought : x.chunk? = some (rows, next)) : next ∈ s.script.links := by
  have herrand := errand_of_exchange h
  rw [Exchange.chunk?, herrand] at hbrought
  obtain ⟨document, hdocument, hchunk⟩ := Option.bind_eq_some_iff.mp hbrought
  obtain ⟨response, hanswer, hstatus, hbody⟩ := Exchange.accepted_of_document hdocument
  rcases exchange_cases h with ⟨-, rfl, -⟩ | ⟨-, fault, -, rfl, -⟩ | ⟨-, url, -, rfl, -⟩
  · cases hanswer
  · cases hanswer
  · have htold : (s.script.next (.fetchChunk link) url).1.reply = .response response := by
      dsimp only at hanswer
      split at hanswer
      · rcases Answer.ofReply_cases url (s.script.next (.fetchChunk link) url).1.reply with
          ⟨told, hreply, heq⟩ | ⟨_, heq⟩ | ⟨_, heq⟩
        · rw [hanswer] at heq
          rw [hreply, Answer.response.inj heq]
        · rw [hanswer] at heq
          cases heq
        · rw [hanswer] at heq
          cases heq
      · cases hanswer
    have hlink : (s.script.next (.fetchChunk link) url).1.reply.chunkLink? = some next := by
      rw [htold, Reply.chunkLink?, if_pos hstatus, hbody]
      simp [Except.toOption, hchunk]
    rcases s.script.next_cases (.fetchChunk link) url with hmem | hnone | ⟨hcancel, -⟩
    · exact List.mem_filterMap.mpr ⟨_, hmem, hlink⟩
    · rw [hnone] at hlink
      cases hlink
    · cases hcancel

theorem Pages.links_subset {order : Order} {xs : List (Exchange τ)} {result : Progress}
    {links : List Document} (h : Pages order xs result)
    (hlinks : ∀ x ∈ xs, ∀ link rows next, x.errand = .fetchChunk link →
      x.chunk? = some (rows, next) → next ∈ links) :
    (∀ link ∈ result.fetched.tail, Document.str link ∈ links) ∧
      (result.fetched ≠ [] → result.link ∈ links) := by
  induction h with
  | first _ _ => exact ⟨by simp [Handle.progress], by simp [Handle.progress]⟩
  | @next xs result link x rows next prior _ announced errand brought ih =>
    obtain ⟨htail, hlast⟩ := ih fun y hy => hlinks y (List.mem_append_left _ hy)
    refine ⟨?_, fun _ => hlinks x (by simp) link rows next errand brought⟩
    simp only [Progress.extend]
    cases hfetched : result.fetched with
    | nil => simp
    | cons one others =>
      rw [hfetched] at htail
      have hlink : Document.str link ∈ links := by
        rw [← (newLink_eq_some announced).1]
        exact hlast (by simp [hfetched])
      simp only [List.cons_append, List.tail_cons, List.forall_mem_append,
        List.forall_mem_singleton]
      exact ⟨htail, hlink⟩

/-- A new link after several was announced by as many replies. -/
theorem Pages.fetched_le {order : Order} {xs : List (Exchange τ)} {result : Progress}
    {links : List Document} {link : String} (h : Pages order xs result)
    (hlinks : ∀ x ∈ xs, ∀ link rows next, x.errand = .fetchChunk link →
      x.chunk? = some (rows, next) → next ∈ links)
    (hnew : result.newLink? = some link) : result.fetched.length ≤ links.length := by
  obtain ⟨htail, hlast⟩ := h.links_subset hlinks
  cases hfetched : result.fetched with
  | nil => exact Nat.zero_le _
  | cons one others =>
    have hlink : Document.str link ∈ links := by
      rw [← (newLink_eq_some hnew).1]
      exact hlast (by simp [hfetched])
    have hdistinct := nodup_newLink h.nodup hnew
    rw [hfetched, List.cons_append, List.nodup_cons] at hdistinct
    rw [hfetched, List.tail_cons] at htail
    have hsubset : (others ++ [link]).map Document.str ⊆ links := by
      intro offered hoffered
      obtain ⟨text, htext, rfl⟩ := List.mem_map.mp hoffered
      rcases List.mem_append.mp htext with htext | htext
      · exact htail text htext
      · rw [List.mem_singleton.mp htext]
        exact hlink
    have hcount := List.subperm_of_subset
      (hdistinct.2.map fun _ _ heq => Document.str.inj heq) hsubset
    simpa using hcount.length_le

theorem Pages.length_fetches {order : Order} {xs : List (Exchange τ)} {result : Progress}
    (h : Pages order xs result) : (fetches xs).length = result.fetched.length := by
  obtain ⟨handle, first, chunks, hcollected⟩ := h.collected
  simpa using congrArg List.length hcollected.asked

section

variable [Zero τ] [Add τ] [Sub τ] [LT τ] [LE τ] [DecidableLT τ] [DecidableLE τ] [Timeline τ]

namespace Course

variable {e : Execution τ} {start s : Session τ} {xs : List (Exchange τ)} {stage : Stage}

/-- The links on the chunks of a course are links of the script at its start. -/
theorem links (h : Course e start xs stage s) {x : Exchange τ} (hx : x ∈ xs) {link : String}
    {rows : List Document} {next : Document} (herrand : x.errand = .fetchChunk link)
    (hbrought : x.chunk? = some (rows, next)) : next ∈ start.script.links := by
  obtain ⟨_, stage', s', limit, script, -, hprior, -, hmade⟩ := h.made hx
  rw [herrand] at hmade
  exact hprior.leaves.links (Session.link_of_chunk hmade hbrought)

/-- **One more chunk is asked for at most than there are replies.** -/
theorem fetches_le (h : Course e start xs stage s) :
    (fetches xs).length ≤ start.script.replies.length + 1 := by
  induction h with
  | begin => exact Nat.zero_le _
  | @ask xs stage s limit errand x script prior asks made ih =>
    have herrand := Session.errand_of_exchange made
    rw [fetches_append]
    by_cases hfetch : ∃ link, errand = .fetchChunk link
    · obtain ⟨link, rfl⟩ := hfetch
      cases stage with
      | reading result =>
        simp only [Execution.asks, Option.ite_none_right_eq_some, Option.map_eq_some_iff,
          Prod.mk.injEq, Errand.fetchChunk.injEq] at asks
        obtain ⟨-, _, hnew, -, rfl⟩ := asks
        have pages : Pages e.order xs result := prior.history
        have hcount := pages.fetched_le (fun y hy _ _ _ => prior.links hy) hnew
        have hone : (fetches [x]).length = 1 := by simp [fetches, herrand, Errand.isFetch]
        rw [List.length_append, pages.length_fetches, hone]
        exact Nat.succ_le_succ (hcount.trans start.script.length_links_le)
      | submitting => cases asks
      | asking handle polls => simp [Execution.asks] at asks
      | expiring handle => cases asks
      | waiting handle polls => cases asks
      | finished outcome => cases asks
    · have hnone : fetches [x] = [] := by
        cases errand with
        | fetchChunk link => exact absurd ⟨link, rfl⟩ hfetch
        | submit order => simp [fetches, herrand, Errand.isFetch]
        | poll id => simp [fetches, herrand, Errand.isFetch]
        | cancel id => simp [fetches, herrand, Errand.isFetch]
      rw [hnone, List.append_nil]
      exact ih
  | rest _ _ ih => exact ih

end Course

end

/-! ### The age of a stage -/

namespace Stage

/-- The execution is over but for a cancellation. -/
def Closing : Stage → Prop
  | expiring _ | finished _ => True
  | _ => False

/-- The steps that lead to a stage from the submission. -/
def age : Stage → Nat
  | submitting => 0
  | waiting _ polls => 2 * polls + 1
  | asking _ polls => 2 * polls + 2
  | reading result => 2 * result.polls + result.fetched.length + 1
  | expiring _ | finished _ => 0

theorem age_ofHandle (handle : Handle) (polls : Nat) :
    (ofHandle handle polls).Closing ∨ (ofHandle handle polls).age = 2 * polls + 1 := by
  rcases ofHandle_cases handle polls with heq | ⟨rows, link, heq⟩ | ⟨outcome, heq⟩
  · rw [heq]
    exact .inr rfl
  · rw [heq]
    exact .inr rfl
  · rw [heq]
    exact .inl trivial

end Stage

section

variable [Zero τ] [Add τ] [Sub τ] [LT τ] [LE τ] [DecidableLT τ] [DecidableLE τ] [Timeline τ]

namespace Execution

variable {e : Execution τ} {stage : Stage} {s : Session τ}

omit [Add τ] in
theorem age_react {now limit : τ} {errand : Errand} (x : Exchange τ)
    (hasks : e.asks now stage = some (limit, errand)) :
    (e.react x stage).1.Closing ∨ (e.react x stage).1.age = stage.age + 1 := by
  cases stage with
  | submitting =>
    rcases e.react_submitting_cases x with ⟨handle, heq⟩ | ⟨outcome, heq⟩
    · rw [heq]
      exact Stage.age_ofHandle handle 0
    · rw [heq]
      exact .inl trivial
  | asking handle polls =>
    rcases e.react_asking_cases x handle polls with ⟨next, heq⟩ | ⟨phase, -, heq⟩ | ⟨outcome, heq⟩
    · rw [heq]
      exact Stage.age_ofHandle next (polls + 1)
    · rw [heq]
      exact .inl trivial
    · rw [heq]
      exact .inl trivial
  | expiring handle =>
    obtain ⟨outcome, heq⟩ := e.react_cancel_finished x handle
    rw [heq]
    exact .inl trivial
  | reading result =>
    rcases e.react_reading_cases x result with ⟨rows, next, heq⟩ | ⟨outcome, heq⟩
    · rw [heq]
      right
      simp only [Stage.age, Progress.extend, List.length_append, List.length_singleton]
      omega
    · rw [heq]
      exact .inl trivial
  | waiting handle polls => cases hasks
  | finished outcome => cases hasks

theorem age_step (hopen : ¬ stage.Closing) :
    (e.step (stage, s)).1.Closing ∨ (e.step (stage, s)).1.age = stage.age + 1 := by
  cases hasks : e.asks s.now stage with
  | some asked =>
    obtain ⟨limit, errand⟩ := asked
    rw [step_ask hasks rfl]
    exact age_react _ hasks
  | none =>
    rw [step_rest hasks]
    cases stage with
    | waiting handle polls =>
      rcases e.rest_waiting_cases s handle polls with ⟨s', heq⟩ | ⟨outcome, heq⟩
      · rw [heq]
        exact .inr rfl
      · rw [heq]
        exact .inl trivial
    | asking handle polls => exact .inl trivial
    | reading result =>
      simp only [rest]
      split
      · exact .inl trivial
      · exact .inl trivial
    | submitting => cases hasks
    | expiring handle => exact absurd trivial hopen
    | finished outcome => exact absurd trivial hopen

theorem finished_of_closing (hclosing : stage.Closing) :
    ∃ outcome, (e.step (stage, s)).1 = .finished outcome := by
  cases stage with
  | expiring handle =>
    obtain ⟨outcome, s', hstep⟩ := e.step_expiring s handle
    exact ⟨outcome, by rw [hstep]⟩
  | finished outcome => exact ⟨outcome, rfl⟩
  | _ => exact absurd hclosing id

/-- **The age tells the steps that were taken.** -/
theorem run_age (e : Execution τ) (s : Session τ) (steps : Nat) :
    (e.run steps (.submitting, s)).1.Closing ∨ (e.run steps (.submitting, s)).1.age = steps := by
  induction steps with
  | zero => exact .inr rfl
  | succ steps ih =>
    rw [run_succ_last]
    by_cases hclosing : (e.run steps (.submitting, s)).1.Closing
    · obtain ⟨outcome, hfinished⟩ := finished_of_closing
        (e := e) (s := (e.run steps (.submitting, s)).2) hclosing
      left
      rw [hfinished]
      trivial
    · rcases age_step (e := e) (s := (e.run steps (.submitting, s)).2) hclosing with hover | hage
      · exact .inl hover
      · rw [ih.resolve_left hclosing] at hage
        exact .inr hage

end Execution

end

/-! ### Bounds -/

variable [AddCommGroup τ] [LinearOrder τ] [IsOrderedAddMonoid τ]

/-- **The bounds of an execution** with an interval and a deadline, in which a script has `count`
replies: on its questions, on the time between them, and on its chunks. -/
structure Bounded (interval deadline : τ) (count : Nat) (xs : List (Exchange τ)) : Prop where
  polls : 0 < xs.countP (·.errand.isPoll) → xs.countP (·.errand.isPoll) • interval < deadline
  paced : ∀ before x after id, xs = before ++ x :: after → x.errand = .poll id →
    ∃ y response, before.getLast? = some y ∧ y.answer = .response response ∧
      x.startedAt = y.endedAt + interval
  chunks : (fetches xs).length ≤ count + 1

omit [IsOrderedAddMonoid τ] in
theorem bounded_nil {interval deadline : τ} {count : Nat} :
    Bounded interval deadline count ([] : List (Exchange τ)) where
  polls h := by simp at h
  paced before x after id h := by simp at h
  chunks := Nat.zero_le _

variable [Timeline τ]

namespace Course

variable {e : Execution τ} {start s : Session τ} {xs : List (Exchange τ)} {stage : Stage}
  {interval : τ}

theorem bounded (hinterval : e.job.interval = .ok interval) (hpositive : 0 < interval)
    (hcausal : start.script.Causal) {deadline : τ} (hdeadline : e.deadlineAt = start.now + deadline)
    (h : Course e start xs stage s) :
    Bounded interval deadline start.script.replies.length xs where
  polls hasked := by
    have hlt := h.polls_lt hinterval hpositive hcausal hasked
    rw [hdeadline] at hlt
    exact lt_of_add_lt_add_left hlt
  paced before x after id hxs herrand := by
    subst hxs
    exact h.paced hinterval hpositive herrand
  chunks := h.fetches_le

/-- **The age is bounded** by the intervals that fit before the deadline and by the replies. -/
theorem age_le (hinterval : e.job.interval = .ok interval) (hpositive : 0 < interval)
    (hcausal : start.script.Causal) {count : Nat}
    (hcount : e.deadlineAt ≤ start.now + count • interval) (h : Course e start xs stage s) :
    stage.age ≤ 2 * count + start.script.replies.length + 2 := by
  have hpolls : xs.countP (·.errand.isPoll) ≤ count := by
    by_contra hmore
    have hlt := h.polls_lt hinterval hpositive hcausal (by omega)
    have hle : count • interval ≤ xs.countP (·.errand.isPoll) • interval :=
      nsmul_le_nsmul_left hpositive.le (by omega)
    exact absurd (hlt.trans_le hcount) (not_lt.mpr (add_le_add_right hle start.now))
  have hchunks := h.fetches_le
  cases stage with
  | submitting => exact Nat.zero_le _
  | waiting handle polls =>
    have heard : Heard e.order xs handle polls := h.history.1
    rw [heard.countP_isPoll] at hpolls
    simp only [Stage.age]
    omega
  | asking handle polls =>
    have heard : Heard e.order xs handle polls := h.history.1
    rw [heard.countP_isPoll] at hpolls
    simp only [Stage.age]
    omega
  | expiring handle => exact Nat.zero_le _
  | reading result =>
    have pages : Pages e.order xs result := h.history
    rw [pages.countP_isPoll] at hpolls
    rw [pages.length_fetches] at hchunks
    simp only [Stage.age]
    omega
  | finished outcome => exact Nat.zero_le _

end Course

/-! ### Executions -/

/-- An answer that is news of a success and a chunk at once, with a link in each. -/
def twofoldDocument : Document :=
  .object [("statement_id", .str "stmt-1"),
    ("status", .object [("state", .str State.succeeded.name)]),
    ("result", .object [("data_array", .list []), ("next_chunk_internal_link", .str "/a")]),
    ("data_array", .list []), ("next_chunk_internal_link", .str "/b")]

/-- A warehouse that gives this answer again and again, once the statement was pending. -/
def twofoldSession : Session Rat :=
  exactSession [exactReply (1 / 10) .pending, exactDocument twofoldDocument]

namespace Client

variable {job : Job τ} {s : Session τ} {interval : τ}

theorem run_finished_of_count (client : Client τ) (connection : Connection)
    (hinterval : job.interval = .ok interval) (hpositive : 0 < interval)
    (hcausal : s.script.Causal) {count : Nat} (hcount : job.deadline ≤ count • interval) :
    ∃ outcome, ((client.execution connection job s).run
      (2 * count + s.script.replies.length + 4) (.submitting, s)).1 = .finished outcome := by
  have hbegin : Course (client.execution connection job s) s [] .submitting s := .begin
  obtain ⟨xs, hcourse⟩ := hbegin.run (2 * count + s.script.replies.length + 3)
  have hage := hcourse.age_le hinterval hpositive hcausal
    (add_le_add_right hcount s.now : s.now + job.deadline ≤ s.now + count • interval)
  rw [Execution.run_succ_last]
  refine Execution.finished_of_closing ?_
  rcases (client.execution connection job s).run_age s
    (2 * count + s.script.replies.length + 3) with hclosing | hsteps
  · exact hclosing
  · omega

/-- **Every execution comes to an end.** With a positive interval some number of steps suffices,
whatever the replies are and however long they take, and all that is done keeps its bounds. -/
theorem execute_terminates [Archimedean τ] (client : Client τ)
    (hinterval : job.interval = .ok interval) (hpositive : 0 < interval)
    (hcausal : s.script.Causal) :
    (∃ steps, ∀ patience, steps ≤ patience →
      (client.execute patience job s).1 ≠ .error .unfinished ∧
        client.execute patience job s = client.execute steps job s) ∧
    ∀ patience, ∃ xs, (client.execute patience job s).2.exchanges = s.exchanges ++ xs ∧
      Bounded interval job.deadline s.script.replies.length xs := by
  constructor
  · obtain ⟨count, hcount⟩ := Archimedean.arch job.deadline hpositive
    refine ⟨2 * count + s.script.replies.length + 4, fun patience hle => ?_⟩
    cases hconf : client.checkConfigured with
    | error failure =>
      rw [execute_unconfigured hconf, execute_unconfigured hconf]
      simp
    | ok =>
      cases hconn : client.connect with
      | error fault =>
        rw [execute_unconnected hconf hconn, execute_unconnected hconf hconn]
        simp
      | ok connection =>
        obtain ⟨outcome, hover⟩ :=
          run_finished_of_count client connection hinterval hpositive hcausal hcount
        have hbegin : Course (client.execution connection job s) s [] .submitting s := .begin
        obtain ⟨xs, hcourse⟩ := hbegin.run (2 * count + s.script.replies.length + 4)
        rw [hover] at hcourse
        have hended : (client.execution connection job s).Ended xs outcome := hcourse.history
        rw [execute_connected hconf hconn, execute_connected hconf hconn,
          Execution.run_of_le hle hover, hover]
        refine ⟨?_, rfl⟩
        rintro rfl
        exact hended.ne_unfinished rfl
  · intro patience
    rcases execute_course client job s patience with ⟨failure, -, heq⟩ | ⟨fault, -, -, heq⟩ |
      ⟨connection, xs, stage, ended, -, -, hcourse, heq⟩
    · rw [heq]
      exact ⟨[], by simp, bounded_nil⟩
    · rw [heq]
      exact ⟨[], by simp, bounded_nil⟩
    · rw [heq]
      exact ⟨xs, hcourse.exchanges_eq, hcourse.bounded hinterval hpositive hcausal rfl⟩

/-- One question and two chunks are asked for, though no chunk is the last one. -/
theorem execute_terminates_twofold :
    exactJob.interval = .ok (1 / 2) ∧ (0 : Rat) < 1 / 2 ∧ twofoldSession.script.Causal ∧
      (∃ steps, (exactClient.execute steps exactJob twofoldSession).1 ≠ .error .unfinished) ∧
      ∃ xs, (exactClient.execute 6 exactJob twofoldSession).2.exchanges = xs ∧
        Bounded (1 / 2) 10 2 xs ∧ xs.countP (·.errand.isPoll) = 1 ∧ (fetches xs).length = 2 := by
  have hinterval : exactJob.interval = .ok (1 / 2) := rfl
  have hpositive : (0 : Rat) < 1 / 2 := by decide +kernel
  have hcausal : twofoldSession.script.Causal := by
    rintro scheduled (hmem | hcancel) latency hlatency
    · simp only [twofoldSession, exactSession, List.mem_cons, List.not_mem_nil, or_false] at hmem
      rcases hmem with rfl | rfl
      · cases hlatency
        decide +kernel
      · cases hlatency
    · cases hcancel
  obtain ⟨⟨steps, hsteps⟩, hbounded⟩ :=
    execute_terminates exactClient hinterval hpositive hcausal
  obtain ⟨xs, hmade, hkept⟩ := hbounded 6
  have hcounts :
      ((exactClient.execute 6 exactJob twofoldSession).2.exchanges.countP (·.errand.isPoll),
        (fetches (exactClient.execute 6 exactJob twofoldSession).2.exchanges).length) = (1, 2) := by
    decide +kernel
  obtain ⟨hpolls, hchunks⟩ := Prod.mk.inj hcounts
  obtain rfl : (exactClient.execute 6 exactJob twofoldSession).2.exchanges = xs := hmade
  exact ⟨hinterval, hpositive, hcausal, ⟨steps, (hsteps steps le_rfl).1⟩, _, rfl, hkept, hpolls,
    hchunks⟩

end Client

end Indicator.Warehouse
