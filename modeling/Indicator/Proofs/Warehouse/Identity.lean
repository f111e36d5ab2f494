import Mathlib.Data.List.Induction
import Indicator.Proofs.Warehouse.Exact
import Indicator.Proofs.Warehouse.Verdict

/-!
# The statement of an execution

Which statement the requests of an execution are about. The warehouse names it in its answers: an
answer to a poll that names none is about the statement that was asked for, and one that names
another is believed. So the requests are about the statement of the handle received last, and they
stay with the one that was submitted as long as the warehouse names no other.

* `Tracking`: each request about a statement, and the outcome, name that of the last handle.
* `Faithful`, `Steadfast`: the warehouse names one statement only, and so does the client.
* `Tracking.steadfast`: a client is as steadfast as the warehouse is faithful.
* `Client.execute_tracking`: **the requests of an execution and its outcome track the handles.**
-/

namespace Indicator.Warehouse

open Json (Document)

variable {τ : Type}

/-! ### The statements that are named -/

/-- The statement that a request is about, once there is one. -/
def Errand.statementId? : Errand → Option String
  | poll id | cancel id => some id
  | submit _ | fetchChunk _ => none

/-- The statement that a document names. -/
def namedIn? : Document → Option String
  | .object body =>
    let given := Document.member body "statement_id"
    if given.truthy then some given.text else none
  | _ => none

/-- The statement that an answer names. -/
def Exchange.named? (x : Exchange τ) : Option String := x.document?.bind namedIn?

/-- The statement that an outcome is about: that of a result, or one that expired. -/
def toldId? : Except Stop Result → Option String
  | .ok result => some result.statementId
  | .error (.failure (.expired _ id _)) => some id
  | .error _ => none

/-- **The requests track the handles.** Each request about a statement is about that of the handle
received last, and so is the outcome. A handle is about the statement that its answer names, or
else about the one that was asked for. -/
structure Tracking (xs : List (Exchange τ)) (outcome : Except Stop Result) : Prop where
  addressed : ∀ before x after id, xs = before ++ x :: after → x.errand.statementId? = some id →
    ∃ handle, (handles before).getLast? = some handle ∧ handle.statementId = id
  adopted : ∀ x ∈ xs, ∀ handle, x.handle? = some handle →
    x.named?.or x.errand.statementId? = some handle.statementId
  told : ∀ id, toldId? outcome = some id →
    ∃ handle, (handles xs).getLast? = some handle ∧ handle.statementId = id

/-- The warehouse names one statement only, where it tells of the state of a statement. -/
def Faithful (id : String) (xs : List (Exchange τ)) : Prop :=
  ∀ x ∈ xs, x.handle?.isSome → ∀ named, x.named? = some named → named = id

/-- The client keeps to one statement: in its requests, in what it adopts and in what it tells. -/
structure Steadfast (id : String) (xs : List (Exchange τ)) (outcome : Except Stop Result) :
    Prop where
  addressed : ∀ x ∈ xs, ∀ other, x.errand.statementId? = some other → other = id
  adopted : ∀ handle ∈ handles xs, handle.statementId = id
  told : ∀ other, toldId? outcome = some other → other = id

/-! ### The statement of a handle -/

/-- A handle is about the statement that its answer names, or the one that was asked for. -/
theorem Handle.statementId_of_read {answer : Document} {known : Option String} {handle : Handle}
    (h : read answer known = .ok handle) :
    (namedIn? answer).or known = some handle.statementId := by
  unfold read at h
  split at h
  · rename_i body
    split at h
    · cases h
    · rename_i id hid
      have hsame : handle.statementId = id := by
        simp only [bind_eq_ok] at h
        obtain ⟨status, -, h⟩ := h
        split at h
        · cases h
        · simp only [bind_eq_ok] at h
          obtain ⟨error, -, result, -, h⟩ := h
          cases h
          rfl
      rw [hsame]
      unfold idOf? at hid
      dsimp only at hid
      by_cases hgiven : (Document.member body "statement_id").truthy
      · rw [if_pos hgiven] at hid
        simp only [namedIn?, if_pos hgiven, Option.some_or]
        exact hid
      · rw [if_neg hgiven] at hid
        simp only [namedIn?, if_neg hgiven, Option.none_or]
        split at hid
        · cases hid
        · cases hid
        · exact hid
  · cases h

theorem Exchange.statementId_of_handle {x : Exchange τ} {handle : Handle}
    (h : x.handle? = some handle) :
    x.named?.or x.errand.statementId? = some handle.statementId := by
  rcases (shape_of_handle h).1 with ⟨order, herrand⟩ | ⟨id, herrand⟩
  · rw [handle?, herrand] at h
    obtain ⟨document, hdocument, hread⟩ := Option.bind_eq_some_iff.mp h
    rw [named?, hdocument, herrand]
    exact Handle.statementId_of_read (toOption_eq_some.mp hread)
  · rw [handle?, herrand] at h
    obtain ⟨document, hdocument, hread⟩ := Option.bind_eq_some_iff.mp h
    rw [named?, hdocument, herrand]
    exact Handle.statementId_of_read (toOption_eq_some.mp hread)

theorem tracking_nil {outcome : Except Stop Result} (h : toldId? outcome = none) :
    Tracking ([] : List (Exchange τ)) outcome where
  addressed before x after id hxs := by simp at hxs
  adopted x hx := by simp at hx
  told id hid := by
    rw [h] at hid
    cases hid

/-! ### From the warehouse to the client -/

namespace Tracking

variable {xs : List (Exchange τ)} {outcome : Except Stop Result} {id : String}

theorem handles_of_faithful (h : Tracking xs outcome) (hfaithful : Faithful id xs)
    {before after : List (Exchange τ)} (hxs : xs = before ++ after) :
    ∀ handle ∈ handles before, handle.statementId = id := by
  -- The next handle is about the statement that is named, or about the one asked for, which is that
  -- of the handle before it.
  induction before using List.reverseRecOn generalizing after with
  | nil => simp [handles]
  | append_singleton before x ih =>
    rw [List.append_assoc, List.singleton_append] at hxs
    have hearlier := ih hxs
    intro handle hmem
    rw [handles_append] at hmem
    rcases List.mem_append.mp hmem with hmem | hmem
    · exact hearlier handle hmem
    · obtain ⟨y, hy, hhandle⟩ := List.mem_filterMap.mp hmem
      obtain rfl : y = x := List.mem_singleton.mp hy
      have hyxs : y ∈ xs := by simp [hxs]
      have hadopted := h.adopted y hyxs handle hhandle
      cases hnamed : y.named? with
      | some named =>
        rw [hnamed, Option.some_or, Option.some.injEq] at hadopted
        rw [← hadopted]
        exact hfaithful y hyxs (Option.isSome_of_eq_some hhandle) named hnamed
      | none =>
        rw [hnamed, Option.none_or] at hadopted
        obtain ⟨last, hlast, hid⟩ := h.addressed before y after _ hxs hadopted
        rw [← hid]
        exact hearlier last (List.mem_of_getLast? hlast)

/-- **A client is as steadfast as the warehouse is faithful.** -/
theorem steadfast (h : Tracking xs outcome) (hfaithful : Faithful id xs) :
    Steadfast id xs outcome where
  addressed x hx other hother := by
    obtain ⟨before, after, hxs⟩ := List.append_of_mem hx
    obtain ⟨handle, hlast, hid⟩ := h.addressed before x after other hxs hother
    rw [← hid]
    exact h.handles_of_faithful hfaithful hxs handle (List.mem_of_getLast? hlast)
  adopted := h.handles_of_faithful hfaithful (List.append_nil xs).symm
  told other hother := by
    obtain ⟨handle, hlast, hid⟩ := h.told other hother
    rw [← hid]
    exact h.handles_of_faithful hfaithful (List.append_nil xs).symm handle
      (List.mem_of_getLast? hlast)

end Tracking

/-! ### The handle received last -/

theorem Pages.tracked {order : Order} {xs : List (Exchange τ)} {result : Progress}
    (h : Pages order xs result) :
    ∃ handle, (handles xs).getLast? = some handle ∧ handle.statementId = result.statementId := by
  induction h with
  | @first xs handle _ _ _ heard _ => exact ⟨handle, heard.getLast_handles, rfl⟩
  | next _ _ _ errand _ ih =>
    rw [handles_append, handles_singleton_none (Exchange.handle_eq_none_of_fetch errand),
      List.append_nil]
    exact ih

section

variable [Zero τ] [Sub τ] [LT τ] [DecidableLT τ] [Timeline τ]

theorem Execution.Late.getLast_handles {e : Execution τ} {xs : List (Exchange τ)} {handle : Handle}
    (late : e.Late xs handle) : (handles xs).getLast? = some handle := by
  cases late with
  | waited heard _ => exact heard.getLast_handles
  | asked heard _ errand late =>
    rw [handles_append, handles_singleton_none (handle_eq_none_of_polled errand late),
      List.append_nil]
    exact heard.getLast_handles

theorem Client.toldId_of_documentOf {client : Client τ} {deadline : Option τ} {phase : Phase}
    {statement : Option String} {x : Exchange τ} {stop : Stop}
    (h : client.documentOf deadline phase statement x = .error stop) :
    toldId? (.error stop) = none := by
  cases stop with
  | failure failure =>
    cases failure with
    | expired limit id last => cases pastDeadline_of_timeout h rfl
    | _ => rfl
  | _ => rfl

theorem Client.toldId_of_handle {client : Client τ} {deadline : Option τ} {phase : Phase}
    {statement known : Option String} {x : Exchange τ} {stop : Stop}
    (h : client.documentOf deadline phase statement x >>= readHandle known = .error stop) :
    toldId? (.error stop) = none := by
  cases hdocument : client.documentOf deadline phase statement x with
  | ok document =>
    rw [hdocument] at h
    obtain ⟨what, rfl⟩ := readHandle_eq_error h
    rfl
  | error found =>
    rw [hdocument] at h
    cases h
    exact toldId_of_documentOf hdocument

namespace Execution

variable {e : Execution τ} {xs : List (Exchange τ)}

theorem Ended.told {outcome : Except Stop Result} (ended : e.Ended xs outcome) {id : String}
    (h : toldId? outcome = some id) :
    ∃ handle, (handles xs).getLast? = some handle ∧ handle.statementId = id := by
  cases ended with
  | complete pages _ =>
    cases h
    exact pages.tracked
  | @expired xs handle x late errand _ =>
    cases h
    rw [handles_append, handles_singleton_none (Exchange.handle_eq_none_of_cancel errand),
      List.append_nil]
    exact ⟨handle, late.getLast_handles, rfl⟩
  | unsubmitted _ stopped =>
    rw [Client.toldId_of_handle stopped] at h
    cases h
  | unheard _ _ _ stopped _ =>
    rw [Client.toldId_of_handle stopped] at h
    cases h
  | unfetched _ _ _ _ stopped =>
    rw [Client.toldId_of_documentOf stopped] at h
    cases h
  | _ => cases h

theorem History.addressed [LE τ] [DecidableLE τ] {stage : Stage} (h : e.History xs stage) {now limit : τ}
    {errand : Errand} (hasks : e.asks now stage = some (limit, errand)) {id : String}
    (hid : errand.statementId? = some id) :
    ∃ handle, (handles xs).getLast? = some handle ∧ handle.statementId = id := by
  cases stage with
  | submitting =>
    cases hasks
    cases hid
  | asking handle polls =>
    simp only [asks, Option.ite_none_left_eq_some, Option.some.injEq, Prod.mk.injEq] at hasks
    obtain ⟨-, -, rfl⟩ := hasks
    cases hid
    exact ⟨handle, h.1.getLast_handles, rfl⟩
  | expiring handle =>
    cases hasks
    cases hid
    exact ⟨handle, Late.getLast_handles h, rfl⟩
  | reading result =>
    simp only [asks, Option.ite_none_right_eq_some, Option.map_eq_some_iff, Prod.mk.injEq] at hasks
    obtain ⟨-, link, -, -, rfl⟩ := hasks
    cases hid
  | waiting handle polls => simp [asks] at hasks
  | finished outcome => simp [asks] at hasks

end Execution

end

/-! ### Executions -/

section

variable [Zero τ] [Add τ] [Sub τ] [LT τ] [LE τ] [DecidableLT τ] [DecidableLE τ] [Timeline τ]

/-- **The exchanges of a course track its handles.** -/
theorem Course.tracking {e : Execution τ} {start s : Session τ} {xs : List (Exchange τ)}
    {stage : Stage} (h : Course e start xs stage s) : Tracking xs stage.outcome where
  addressed before x after id hxs hid := by
    subst hxs
    obtain ⟨stage', s', limit, script, hprior, hasks, -⟩ := h.split
    exact hprior.history.addressed hasks hid
  adopted x _ handle hhandle := x.statementId_of_handle hhandle
  told id hid := by
    have hhistory := h.history
    cases stage with
    | finished outcome => exact Execution.Ended.told hhistory hid
    | _ => cases hid

namespace Client

/-- **The requests of an execution track the handles that were received**, and so does its outcome,
whatever the warehouse answers. As long as the warehouse names one statement, the polls, the
cancellation and the outcome are about that one. -/
theorem execute_tracking (client : Client τ) (job : Job τ) (s : Session τ) (patience : Nat) :
    ∃ xs, (client.execute patience job s).2.exchanges = s.exchanges ++ xs ∧
      Tracking xs (client.execute patience job s).1 ∧
      ∀ id, Faithful id xs → Steadfast id xs (client.execute patience job s).1 := by
  obtain ⟨xs, hmade, htracking⟩ : ∃ xs,
      (client.execute patience job s).2.exchanges = s.exchanges ++ xs ∧
        Tracking xs (client.execute patience job s).1 := by
    rcases execute_course client job s patience with ⟨failure, hconf, heq⟩ | ⟨fault, -, -, heq⟩ |
      ⟨connection, xs, stage, ended, -, -, hcourse, heq⟩
    · rw [heq]
      rw [checkConfigured_eq_error hconf]
      exact ⟨[], by simp, tracking_nil rfl⟩
    · rw [heq]
      exact ⟨[], by simp, tracking_nil rfl⟩
    · rw [heq]
      exact ⟨xs, hcourse.exchanges_eq, hcourse.tracking⟩
  exact ⟨xs, hmade, htracking, fun id => htracking.steadfast⟩

end Client

end

/-! ### Another statement -/

/-- News of a statement. -/
def newsOf (id : String) (state : State) : Scheduled Rat :=
  exactDocument (.object
    [("statement_id", .str id), ("status", .object [("state", .str state.name)]),
      ("result", .object [("row_count", .int 0)])])

/-- A warehouse that is asked for one statement and tells of another. -/
def driftingSession : Session Rat :=
  exactSession [newsOf "stmt-1" .pending, newsOf "stmt-2" .running, newsOf "stmt-2" .succeeded]

namespace Client

/-- The requests to a warehouse that never comes to an end are about one statement. -/
theorem execute_tracking_pending :
    ∃ x xs,
      (exactClient.execute 12 { exactJob with deadline := 1 } pendingSession).2.exchanges =
        x :: xs ∧
      Steadfast "stmt-1" (x :: xs)
        (exactClient.execute 12 { exactJob with deadline := 1 } pendingSession).1 := by
  obtain ⟨xs, hmade, -, hsteadfast⟩ :=
    execute_tracking exactClient { exactJob with deadline := 1 } pendingSession 12
  have hnamed :
      ((exactClient.execute 12 { exactJob with deadline := 1 } pendingSession).2.exchanges.map
        fun x => (x.errand.line.1, x.named?)) =
      [("POST", some "stmt-1"), ("GET", some "stmt-1"), ("POST", some "stmt-1")] := by
    decide +kernel
  obtain ⟨x, rest, hx, -⟩ := List.map_eq_cons_iff.mp hnamed
  obtain rfl : xs = x :: rest := by rw [← hx, hmade]; rfl
  refine ⟨x, rest, hx, hsteadfast "stmt-1" fun y hy _ named hy' => ?_⟩
  have hone : (y.errand.line.1, y.named?) ∈
      [("POST", some "stmt-1"), ("GET", some "stmt-1"), ("POST", some "stmt-1")] := by
    rw [← hnamed, hx]
    exact List.mem_map_of_mem hy
  simp only [hy', List.mem_cons, Prod.mk.injEq, Option.some.injEq, List.not_mem_nil,
    or_false] at hone
  rcases hone with hone | hone | hone
  all_goals exact hone.2

/-- **An answer that names another statement is believed**: the next poll is about that one, and so
is the result. -/
theorem execute_drifting :
    (exactClient.execute 6 exactJob driftingSession).2.exchanges.map (·.errand.line) =
        [("POST", "/api/2.0/sql/statements"), ("GET", "/api/2.0/sql/statements/stmt-1"),
          ("GET", "/api/2.0/sql/statements/stmt-2")] ∧
      (handles (exactClient.execute 6 exactJob driftingSession).2.exchanges).map
        (·.statementId) = ["stmt-1", "stmt-2", "stmt-2"] ∧
      toldId? (exactClient.execute 6 exactJob driftingSession).1 = some "stmt-2" := by
  decide +kernel

end Client

end Indicator.Warehouse
