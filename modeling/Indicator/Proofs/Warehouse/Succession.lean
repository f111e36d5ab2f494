import Indicator.Proofs.Warehouse.Deadline

/-!
# Executions one after the other

An execution that follows others goes as it would by itself, from the instant zero and with the
replies that they left.

* `Session.following`: a session placed after another one, its clock included.
* `Execution.delayed`: an execution whose deadline is moved along with the clock.
* `Execution.step_following`, `Execution.run_following`: **what an execution does is the same after
  another session**, but for the clock.
* `Script.after`: the replies that are left after some of them. `Course.script_eq`: a reply was given
  for each request that was sent.
* `Client.executeAll`: executions one after the other. `Client.execute_afresh`: **the next one goes
  as if it were the first.**
-/

namespace Indicator.Warehouse

variable {τ : Type}

/-! ### Replies that are left -/

namespace Script

/-- What is left once some of the replies were given. The last one stays. -/
def after (script : Script τ) (given : Nat) : Script τ :=
  { script with replies := script.replies.drop (min given (script.replies.length - 1)) }

/-- Whether an exchange takes the next reply: it was sent, and not to where the reply that is set
apart is given. -/
def serves (script : Script τ) (x : Exchange τ) : Bool :=
  match x.url with
  | some url => !(script.cancelReply.isSome && isCancel x.errand url)
  | none => false

theorem after_zero (script : Script τ) : script.after 0 = script := by
  rw [after, Nat.zero_min, List.drop_zero]

theorem nextReply_drop (replies : List (Scheduled τ)) (given : Nat) :
    (nextReply (replies.drop (min given (replies.length - 1)))).2 =
      replies.drop (min (given + 1) (replies.length - 1)) := by
  induction replies generalizing given with
  | nil => simp [nextReply]
  | cons first rest ih =>
    cases rest with
    | nil => simp [nextReply]
    | cons next rest =>
      cases given with
      | zero => simp [nextReply]
      | succ given =>
        have hlength : (first :: next :: rest).length - 1 = (next :: rest).length - 1 + 1 := rfl
        rw [hlength, Nat.succ_min_succ, Nat.succ_min_succ, List.drop_succ_cons, List.drop_succ_cons]
        exact ih given

theorem next_after (script : Script τ) (given : Nat) (errand : Errand) (url : Web.Url) :
    ((script.after given).next errand url).2 =
      script.after (given + if script.cancelReply.isSome && isCancel errand url then 0 else 1) := by
  obtain ⟨replies, cancelReply⟩ := script
  cases cancelReply with
  | none => simp [next, after, nextReply_drop]
  | some reply =>
    cases hcancel : isCancel errand url with
    | true => simp [next, after, hcancel]
    | false => simp [next, after, hcancel, nextReply_drop]

end Script

section

variable [Zero τ] [Add τ] [LT τ] [LE τ] [DecidableLT τ] [DecidableLE τ]

theorem Session.script_of_exchange {s : Session τ} {connection : Connection} {limit : τ}
    {errand : Errand} {x : Exchange τ} {script first : Script τ} {given : Nat}
    (h : s.exchange connection limit errand = (x, script)) (hleft : s.script = first.after given) :
    script = first.after (given + if first.serves x then 1 else 0) := by
  rcases exchange_cases h with ⟨-, rfl, rfl⟩ | ⟨-, fault, -, rfl, rfl⟩ | ⟨-, url, -, rfl, rfl⟩
  · exact hleft
  · exact hleft
  · rw [hleft, Script.next_after]
    cases hcancel : first.cancelReply.isSome && isCancel errand url <;>
      simp [Script.serves, hcancel]

variable [Sub τ] [Timeline τ]

/-- **A reply was given for each request that was sent.** -/
theorem Course.script_eq {e : Execution τ} {start s : Session τ} {xs : List (Exchange τ)}
    {stage : Stage} {first : Script τ} {given : Nat} (h : Course e start xs stage s)
    (hleft : start.script = first.after given) :
    s.script = first.after (given + xs.countP first.serves) := by
  induction h with
  | begin => exact hleft
  | ask prior asks made ih =>
    rw [Session.noteAll_script, Session.after, Session.script_of_exchange made ih,
      List.countP_append, List.countP_singleton, Nat.add_assoc]
  | rest prior asks ih =>
    rw [Execution.rest_script]
    exact ih

namespace Client

theorem execute_script (client : Client τ) (patience : Nat) (job : Job τ) (s : Session τ) :
    ∃ xs, (client.execute patience job s).2.exchanges = s.exchanges ++ xs ∧
      ∀ (first : Script τ) (given : Nat), s.script = first.after given →
        (client.execute patience job s).2.script =
          first.after (given + xs.countP first.serves) := by
  rcases execute_course client job s patience with ⟨failure, -, heq⟩ | ⟨fault, -, -, heq⟩ |
    ⟨connection, xs, stage, ended, -, -, hcourse, heq⟩
  · rw [heq]
    exact ⟨[], by simp, fun first given hleft => hleft⟩
  · rw [heq]
    exact ⟨[], by simp, fun first given hleft => hleft⟩
  · rw [heq]
    exact ⟨xs, hcourse.exchanges_eq, fun first given hleft => hcourse.script_eq hleft⟩

/-- Executes jobs one after the other, each in at most as many steps as are granted with it. -/
def executeAll (client : Client τ) (calls : List (Nat × Job τ)) (s : Session τ) : Session τ :=
  calls.foldl (fun s call => (client.execute call.1 call.2 s).2) s

/-- What executions leave of the replies: those after the ones that their requests took. -/
theorem executeAll_script (client : Client τ) (calls : List (Nat × Job τ)) (s : Session τ) :
    ∃ xs, (client.executeAll calls s).exchanges = s.exchanges ++ xs ∧
      ∀ (first : Script τ) (given : Nat), s.script = first.after given →
        (client.executeAll calls s).script = first.after (given + xs.countP first.serves) := by
  induction calls generalizing s with
  | nil => exact ⟨[], by simp [executeAll], fun first given hleft => hleft⟩
  | cons call calls ih =>
    obtain ⟨xs, hxs, hscript⟩ := client.execute_script call.1 call.2 s
    obtain ⟨ys, hys, hscripts⟩ := ih (client.execute call.1 call.2 s).2
    refine ⟨xs ++ ys, ?_, fun first given hleft => ?_⟩
    · rw [executeAll, List.foldl_cons, ← executeAll, hys, hxs, List.append_assoc]
    · rw [executeAll, List.foldl_cons, ← executeAll, List.countP_append, ← Nat.add_assoc]
      exact hscripts first _ (hscript first given hleft)

end Client

end

/-! ### Sessions one after the other -/

/-- The same exchange at a later time. -/
def Exchange.delayed [Add τ] (delay : τ) (x : Exchange τ) : Exchange τ :=
  { x with startedAt := delay + x.startedAt, endedAt := delay + x.endedAt }

/-- A session that comes after another one: the clock goes on from there, and what was asked and
recorded is kept. -/
def Session.following [Add τ] (s earlier : Session τ) : Session τ where
  now := earlier.now + s.now
  script := s.script
  exchanges := earlier.exchanges ++ s.exchanges.map (Exchange.delayed earlier.now)
  log := earlier.log ++ s.log

/-- A session that starts at zero, with the replies to come. -/
def Session.ofScript [Zero τ] (script : Script τ) : Session τ := ⟨0, script, [], []⟩

/-- The same execution with the deadline at a later instant. -/
def Execution.delayed [Add τ] (delay : τ) (e : Execution τ) : Execution τ :=
  { e with deadlineAt := delay + e.deadlineAt }

/-- **An execution that goes as another one goes by itself**, after a session: with the same outcome,
requests, answers and records, and the clock goes on from where it stood. -/
structure Resumes [Add τ] (s : Session τ) (alone next : Except Stop Result × Session τ) : Prop where
  outcome : next.1 = alone.1
  clock : next.2.now = s.now + alone.2.now
  requests : next.2.exchanges = s.exchanges ++ alone.2.exchanges.map (Exchange.delayed s.now)
  records : next.2.log = s.log ++ alone.2.log
  replies : next.2.script = alone.2.script

variable [AddCommGroup τ] [LinearOrder τ]

namespace Session

variable {s : Session τ} {connection : Connection} {limit : τ} {errand : Errand} {x : Exchange τ}
  {script : Script τ}

omit [LinearOrder τ] in
theorem after_following (s earlier : Session τ) (x : Exchange τ) (script : Script τ) :
    (s.following earlier).after (x.delayed earlier.now) script =
      (s.after x script).following earlier := by
  simp [after, following, Exchange.delayed]

omit [LinearOrder τ] in
theorem noteAll_following (s earlier : Session τ) (correlation : Option String)
    (events : List Event) : (s.following earlier).noteAll correlation events =
      (s.noteAll correlation events).following earlier := by
  simp [noteAll, following]

theorem pause_following (s earlier : Session τ) (duration : τ) :
    (s.following earlier).pause duration = (s.pause duration).following earlier := by
  unfold pause
  split
  · simp [following, add_assoc]
  · rfl

theorem exchange_following (earlier : Session τ)
    (h : s.exchange connection limit errand = (x, script)) :
    (s.following earlier).exchange connection limit errand = (x.delayed earlier.now, script) := by
  rcases exchange_cases h with ⟨hlimit, rfl, rfl⟩ | ⟨hlimit, fault, haddress, rfl, rfl⟩ |
    ⟨hlimit, url, haddress, rfl, rfl⟩
  · exact exchange_late hlimit
  · exact exchange_unwritten hlimit haddress
  · rw [exchange_sent hlimit haddress]
    simp only [following, Exchange.delayed, add_assoc]
    rfl

end Session

/-! ### Executions at a later time -/

/-- The time that a request may take is counted from where the clock stands. -/
theorem Client.limitAt_delayed (client : Client τ) (delay deadline now : τ) :
    client.limitAt (some (delay + deadline)) (delay + now) = client.limitAt (some deadline) now := by
  simp only [limitAt, add_sub_add_left_eq_sub]

namespace Execution

variable {e : Execution τ} {s : Session τ} {stage : Stage}

theorem limit_delayed (e : Execution τ) (delay now : τ) :
    (e.delayed delay).limit (delay + now) = e.limit now := by
  unfold limit
  exact congrArg Prod.fst (e.client.limitAt_delayed delay e.deadlineAt now)

theorem rest_following (e : Execution τ) (s earlier : Session τ) (stage : Stage) :
    (e.delayed earlier.now).rest (s.following earlier) stage =
      ((e.rest s stage).1, (e.rest s stage).2.following earlier) := by
  cases stage with
  | waiting handle polls =>
    have hleft : (e.delayed earlier.now).deadlineAt - (s.following earlier).now =
        e.deadlineAt - s.now := add_sub_add_left_eq_sub _ _ _
    simp only [rest, hleft]
    split
    · have hjob : (e.delayed earlier.now).job = e.job := rfl
      rw [hjob]
      cases e.job.interval with
      | ok interval => exact Prod.ext rfl (s.pause_following earlier _)
      | error fault => rfl
    · rfl
  | reading result =>
    simp only [rest]
    split
    · rfl
    · rw [← Session.noteAll_singleton, ← Session.noteAll_singleton, ← Session.noteAll_following]
      rfl
  | _ => rfl

variable [Timeline τ]

/-- What follows a request depends on its times only through what was left before the deadline. -/
theorem react_delayed (e : Execution τ) (delay : τ) (x : Exchange τ) (stage : Stage) :
    (e.delayed delay).react (x.delayed delay) stage = e.react x stage := by
  have hdocument : ∀ phase statement, (e.delayed delay).client.documentOf
      (some (e.delayed delay).deadlineAt) phase statement (x.delayed delay) =
      e.client.documentOf (some e.deadlineAt) phase statement x := by
    intro phase statement
    unfold Client.documentOf Client.responseOf
    have hlimit : (e.delayed delay).client.limitAt (some (e.delayed delay).deadlineAt)
        (x.delayed delay).startedAt = e.client.limitAt (some e.deadlineAt) x.startedAt :=
      e.client.limitAt_delayed delay e.deadlineAt x.startedAt
    rw [hlimit]
    rfl
  cases stage with
  | submitting =>
    simp only [react, submitted, hdocument]
    rfl
  | asking handle polls => simp only [react, polled, hdocument]
  | reading result =>
    simp only [react, hdocument]
    rfl
  | _ => rfl

variable [IsOrderedAddMonoid τ]

omit [Timeline τ] in
theorem asks_delayed (e : Execution τ) (delay now : τ) (stage : Stage) :
    (e.delayed delay).asks (delay + now) stage = e.asks now stage := by
  cases stage with
  | asking handle polls =>
    have hdue : (e.delayed delay).deadlineAt ≤ delay + now ↔ e.deadlineAt ≤ now :=
      add_le_add_iff_left delay
    simp only [asks, hdue, limit_delayed]
  | submitting =>
    simp only [asks, limit_delayed]
    rfl
  | reading result => simp only [asks, limit_delayed]
  | _ => rfl

/-- **A step is the same after another session**, but for the clock. -/
theorem step_following (e : Execution τ) (s earlier : Session τ) (stage : Stage) :
    (e.delayed earlier.now).step (stage, s.following earlier) =
      ((e.step (stage, s)).1, (e.step (stage, s)).2.following earlier) := by
  have hasks' := e.asks_delayed earlier.now s.now stage
  cases hasks : e.asks s.now stage with
  | none =>
    rw [hasks] at hasks'
    rw [step_rest hasks, step_rest (s := s.following earlier) hasks', rest_following]
  | some asked =>
    obtain ⟨limit, errand⟩ := asked
    rw [hasks] at hasks'
    obtain ⟨x, script, hmade⟩ : ∃ x script,
        s.exchange e.connection limit errand = (x, script) := ⟨_, _, rfl⟩
    have hmade' := Session.exchange_following earlier hmade
    rw [step_ask hasks hmade, step_ask (s := s.following earlier) hasks' hmade', react_delayed,
      Session.after_following]
    exact Prod.ext rfl (Session.noteAll_following _ _ _ _)

/-- **So are all its steps.** -/
theorem run_following (e : Execution τ) (s earlier : Session τ) (stage : Stage) (steps : Nat) :
    (e.delayed earlier.now).run steps (stage, s.following earlier) =
      ((e.run steps (stage, s)).1, (e.run steps (stage, s)).2.following earlier) := by
  induction steps generalizing stage s with
  | zero => rfl
  | succ steps ih => rw [run_succ, run_succ, step_following, ih]

end Execution

/-! ### Executions by a client -/

/-- A statement that is not asked for before its deadline. -/
def patientJob : Job Rat := { exactJob with interval := .ok 10 }

namespace Client

variable [IsOrderedAddMonoid τ] [Timeline τ]

/-- An execution goes the same way after another session, but for the clock. -/
theorem execute_following (client : Client τ) (job : Job τ) (s earlier : Session τ)
    (patience : Nat) : client.execute patience job (s.following earlier) =
      ((client.execute patience job s).1,
        (client.execute patience job s).2.following earlier) := by
  cases hconf : client.checkConfigured with
  | error failure => rw [execute_unconfigured hconf, execute_unconfigured hconf]
  | ok =>
    cases hconn : client.connect with
    | error fault => rw [execute_unconnected hconf hconn, execute_unconnected hconf hconn]
    | ok connection =>
      have hexecution : client.execution connection job (s.following earlier) =
          (client.execution connection job s).delayed earlier.now := by
        simp [execution, Execution.delayed, Session.following, add_assoc]
      rw [execute_connected hconf hconn, execute_connected hconf hconn, hexecution,
        Execution.run_following]

/-- **The next execution goes as if it were the first**: after any executions by the same client it
is the one that starts at zero with the replies that those have left. -/
theorem execute_afresh (client : Client τ) (calls : List (Nat × Job τ)) (start : Session τ)
    (patience : Nat) (job : Job τ) :
    ∃ xs, (client.executeAll calls start).exchanges = start.exchanges ++ xs ∧
      Resumes (client.executeAll calls start)
        (client.execute patience job
          (.ofScript (start.script.after (xs.countP start.script.serves))))
        (client.execute patience job (client.executeAll calls start)) := by
  obtain ⟨xs, hxs, hscript⟩ := client.executeAll_script calls start
  have hleft := hscript start.script 0 start.script.after_zero.symm
  rw [Nat.zero_add] at hleft
  refine ⟨xs, hxs, ?_⟩
  rw [← hleft]
  generalize client.executeAll calls start = s
  -- what goes on from `s` is what starts afresh, placed after `s`
  have hs : s = (Session.ofScript s.script).following s := by
    simp [Session.following, Session.ofScript]
  have hnext := client.execute_following job (.ofScript s.script) s patience
  rw [← hs] at hnext
  rw [hnext]
  generalize client.execute patience job (.ofScript s.script) = alone
  exact ⟨rfl, rfl, rfl, rfl, rfl⟩

/-- A second execution starts where a first one was cancelled, after its deadline, and is cancelled
as it would be by itself. -/
theorem execute_afresh_pending :
    pendingSession.now + exactJob.deadline ≤
        (exactClient.executeAll [(5, patientJob)] pendingSession).now ∧
      ∃ xs, (exactClient.executeAll [(5, patientJob)] pendingSession).exchanges =
          pendingSession.exchanges ++ xs ∧
        Resumes (exactClient.executeAll [(5, patientJob)] pendingSession)
          (exactClient.execute 50 exactJob
            (.ofScript (pendingSession.script.after (xs.countP pendingSession.script.serves))))
          (exactClient.execute 50 exactJob
            (exactClient.executeAll [(5, patientJob)] pendingSession)) := by
  have hlater : pendingSession.now + exactJob.deadline ≤
      (exactClient.executeAll [(5, patientJob)] pendingSession).now := by decide +kernel
  exact ⟨hlater, execute_afresh exactClient [(5, patientJob)] pendingSession 50 exactJob⟩

end Client

end Indicator.Warehouse
