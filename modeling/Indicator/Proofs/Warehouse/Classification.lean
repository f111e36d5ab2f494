import Indicator.Proofs.Text.Utf16
import Indicator.Proofs.Warehouse.Replies
import Indicator.Proofs.Warehouse.Verdict

/-!
# The kinds of ends

How an execution ends is told by the last request it made, apart from the cancellation.

* `Execution.endsIn_of_documentOf`: a request that brings no document ends in what it came to.
* `Execution.Ended.settles`: so does every execution that is over, unless the cancellation raised a
  fault.
* `Classified`: the outcome is of a kind if and only if the last request came to it.
* `Client.execute_classified`: **every execution that is over is classified.**
* `Client.execute_refused_untold`: a refusal whose text cannot be told is an end of no kind.
-/

namespace Indicator.Warehouse

open Json (Document)

variable {τ : Type}

/-! ### Refusals -/

/-- When a response does not tell what went wrong. -/
theorem Response.message_eq_error_iff {response : Response} :
    (∃ fault, response.message = .error fault) ↔
      (∃ what, response.body.document = .error (.tooDeep what)) ∨
        ((∃ refusal, response.body.document = .error refusal) ∧
          ∃ fault, response.body.text = .error fault) := by
  unfold message
  split
  · rename_i document hdocument
    simp [hdocument]
  · rename_i what hdocument
    simp [hdocument]
  · rename_i refusal hdeep hdocument
    split
    · rename_i fault htext
      simp [hdocument, htext]
    · rename_i htext
      simp only [hdocument, htext]
      simpa using hdeep
    · rename_i text _ htext
      simp only [hdocument, htext]
      simpa using hdeep

/-- A refusal is stray exactly if it does not tell what went wrong. -/
theorem Exchange.stray_of_refused {x : Exchange τ} {response : Response}
    (hanswer : x.answer = .response response) (hstatus : 400 ≤ response.status) :
    x.Stray ↔ ∃ fault, response.message = .error fault := by
  rw [Response.message_eq_error_iff]
  constructor
  · rintro (⟨fault, hfault⟩ | ⟨found, hfound, hbad⟩)
    · rw [hanswer] at hfault
      cases hfault
    · rw [hanswer] at hfound
      cases hfound
      rcases hbad with hdeep | ⟨-, hrefusal, htext⟩
      · exact .inl hdeep
      · exact .inr ⟨hrefusal, htext⟩
  · rintro (hdeep | ⟨hrefusal, htext⟩)
    · exact .inr ⟨response, hanswer, .inl hdeep⟩
    · exact .inr ⟨response, hanswer, .inr ⟨hstatus, hrefusal, htext⟩⟩

/-- An answer that is no refusal is stray exactly if it is nested too deep. -/
theorem Exchange.stray_of_accepted {x : Exchange τ} {response : Response}
    (hanswer : x.answer = .response response) (hstatus : response.status < 400) :
    x.Stray ↔ ∃ what, response.body.document = .error (.tooDeep what) := by
  constructor
  · rintro (⟨fault, hfault⟩ | ⟨found, hfound, hbad⟩)
    · rw [hanswer] at hfault
      cases hfault
    · rw [hanswer] at hfound
      cases hfound
      rcases hbad with hdeep | ⟨hrefused, -⟩
      · exact hdeep
      · omega
  · intro hdeep
    exact .inr ⟨response, hanswer, .inl hdeep⟩

theorem Exchange.not_stray_of_document {x : Exchange τ} {document : Document}
    (h : x.document? = some document) : ¬ x.Stray := by
  obtain ⟨response, hanswer, hstatus, hbody⟩ := accepted_of_document h
  rw [stray_of_accepted hanswer hstatus]
  rintro ⟨what, hdeep⟩
  rw [hbody] at hdeep
  cases hdeep

theorem Exchange.not_stray_of_handle {x : Exchange τ} {handle : Handle}
    (h : x.handle? = some handle) : ¬ x.Stray := by
  obtain ⟨-, document, hdocument, -⟩ := shape_of_handle h
  exact not_stray_of_document hdocument

section

variable [Zero τ] [Sub τ] [LT τ] [DecidableLT τ]

namespace Execution

variable {e : Execution τ} {before : List (Exchange τ)} {x : Exchange τ}

/-- The outcome is the one that a request came to. -/
def EndsIn (e : Execution τ) (before : List (Exchange τ)) (x : Exchange τ)
    (outcome : Except Stop Result) : Prop :=
  ∃ v, Verdict.ofOutcome? outcome = some v ∧ e.Comes before x v

theorem hurried_iff :
    (e.client.limitAt (some e.deadlineAt) x.startedAt).2 = true ↔ e.Hurried x := by
  unfold Client.limitAt Hurried
  dsimp only
  split
  · rename_i h
    simp [h]
  · rename_i h
    simp [h]

theorem endsIn_of_refused {response : Response} {phase : Phase} {statement : Option String}
    {stop : Stop} (hanswer : x.answer = .response response) (hstatus : 400 ≤ response.status)
    (h : Client.accept phase statement response = .error stop) :
    e.EndsIn before x (.error stop) := by
  have hiff := Exchange.stray_of_refused hanswer hstatus
  unfold Client.accept at h
  rw [if_pos hstatus] at h
  dsimp only at h
  split at h
  · rename_i fault hmessage
    cases h
    exact ⟨.stray, rfl, hiff.mpr ⟨fault, hmessage⟩⟩
  · rename_i message hmessage
    cases h
    have hstray : ¬ x.Stray := by
      rw [hiff, hmessage]
      rintro ⟨fault, hfault⟩
      cases hfault
    by_cases hserver : 500 ≤ response.status ∨ response.status = 429
    · refine ⟨.unavailable, ?_, hstray, .inr (.inr ⟨response, hanswer, hserver.symm⟩)⟩
      simp only [Verdict.ofOutcome?, Failure.kind, if_pos hserver, Verdict.ofKind?]
    · refine ⟨.rejected, ?_, hstray, .inl ⟨response, hanswer, hstatus, by omega, by omega⟩⟩
      simp only [Verdict.ofOutcome?, Failure.kind, if_neg hserver, Verdict.ofKind?]

theorem endsIn_of_undocumented {response : Response} {phase : Phase} {statement : Option String}
    {stop : Stop} (hanswer : x.answer = .response response) (hstatus : response.status < 400)
    (h : Client.accept phase statement response = .error stop) :
    e.EndsIn before x (.error stop) := by
  have hiff := Exchange.stray_of_accepted hanswer hstatus
  unfold Client.accept at h
  rw [if_neg (by omega)] at h
  split at h
  · cases h
  · rename_i what hdocument
    cases h
    exact ⟨.stray, rfl, hiff.mpr ⟨what, hdocument⟩⟩
  · rename_i refusal hdeep hdocument
    cases h
    refine ⟨.malformed, rfl, ?_, .inl ⟨response, hanswer, hstatus, .inl ⟨refusal, hdocument⟩⟩⟩
    rw [hiff, hdocument]
    rintro ⟨what, hwhat⟩
    cases hwhat
    exact hdeep what rfl

/-- An answer of another shape than it has to have. -/
theorem endsIn_of_misshapen {document : Document} {what : Breach}
    (hdocument : x.document? = some document) (hshape : ¬ AnswerShape x.errand document) :
    e.EndsIn before x (.error (.failure (.breach what))) := by
  obtain ⟨response, hanswer, hstatus, hbody⟩ := Exchange.accepted_of_document hdocument
  have hstray := Exchange.not_stray_of_document hdocument
  exact ⟨.malformed, rfl, hstray,
    .inl ⟨response, hanswer, hstatus, .inr ⟨document, hbody, hshape⟩⟩⟩

/-- A document that is no handle. -/
theorem endsIn_of_readHandle {known : Option String} {document : Document} {stop : Stop}
    (hdocument : x.document? = some document)
    (hshape : AnswerShape x.errand document → ∃ body, document = .object body ∧
      HandleShape known body)
    (h : Client.readHandle known document = .error stop) : e.EndsIn before x (.error stop) := by
  obtain ⟨what, rfl⟩ := Client.readHandle_eq_error h
  refine endsIn_of_misshapen hdocument ?_
  intro htold
  obtain ⟨handle, hread⟩ := Handle.read_ok_iff.mpr (hshape htold)
  rw [Client.readHandle_eq_ok_iff.mpr hread] at h
  cases h

variable [Timeline τ]

/-- A request that brings no document ends in what it came to. -/
theorem endsIn_of_documentOf {phase : Phase} {statement : Option String} {stop : Stop}
    (h : e.client.documentOf (some e.deadlineAt) phase statement x = .error stop) :
    e.EndsIn before x (.error stop) := by
  unfold Client.documentOf Client.responseOf at h
  cases hanswer : x.answer with
  | response response =>
    simp only [hanswer] at h
    have haccept : Client.accept phase statement response = .error stop := h
    by_cases hstatus : 400 ≤ response.status
    · exact endsIn_of_refused hanswer hstatus haccept
    · exact endsIn_of_undocumented hanswer (by omega) haccept
  | broken reason =>
    simp only [hanswer] at h
    cases h
    refine ⟨.unavailable, rfl, ?_, .inl ⟨reason, hanswer⟩⟩
    simp [Exchange.Stray, hanswer]
  | timedOut =>
    simp only [hanswer] at h
    have hstray : ¬ x.Stray := by simp [Exchange.Stray, hanswer]
    split at h
    · rename_i hbounded
      cases h
      exact ⟨.overdue, rfl, hstray, .inl ⟨hanswer, hurried_iff.mp hbounded⟩⟩
    · rename_i hbounded
      cases h
      exact ⟨.unavailable, rfl, hstray,
        .inr (.inl ⟨hanswer, fun hurried => hbounded (hurried_iff.mpr hurried)⟩)⟩
  | fault fault =>
    simp only [hanswer] at h
    cases h
    exact ⟨.stray, rfl, .inl ⟨fault, hanswer⟩⟩

theorem endsIn_of_submitted {order : Order} {stop : Stop} (errand : x.errand = .submit order)
    (h : e.submitted x = .error stop) : e.EndsIn before x (.error stop) := by
  unfold submitted at h
  cases hdocument : e.client.documentOf (some e.deadlineAt) .submit
    (e.client.shown e.job.statement) x with
  | error found =>
    rw [hdocument] at h
    cases h
    exact endsIn_of_documentOf hdocument
  | ok document =>
    rw [hdocument] at h
    refine endsIn_of_readHandle (Client.documentOf_eq_ok_iff.mp hdocument) ?_ h
    intro hshape
    rw [errand] at hshape
    exact hshape

theorem endsIn_of_polled {id : String} {stop : Stop} (errand : x.errand = .poll id)
    (h : e.polled id x = .error stop) : e.EndsIn before x (.error stop) := by
  unfold polled at h
  cases hdocument : e.client.documentOf (some e.deadlineAt) .poll none x with
  | error found =>
    rw [hdocument] at h
    cases h
    exact endsIn_of_documentOf hdocument
  | ok document =>
    rw [hdocument] at h
    refine endsIn_of_readHandle (Client.documentOf_eq_ok_iff.mp hdocument) ?_ h
    intro hshape
    rw [errand] at hshape
    exact hshape

end Execution

end

/-! ### The last request -/

theorem Exchange.not_cancels_of_handle {x : Exchange τ} {handle : Handle}
    (h : x.handle? = some handle) : ¬ x.Cancels := by
  rintro ⟨id, herrand⟩
  rw [handle_eq_none_of_cancel herrand] at h
  cases h

theorem Exchange.not_cancels_of_announced {x : Exchange τ} {link : Document}
    (h : x.announced? = some link) : ¬ x.Cancels := by
  rintro ⟨id, herrand⟩
  have hchunk : x.chunk? = none := by
    rw [chunk?, herrand]
  rw [announced_of_unhandled (handle_eq_none_of_cancel herrand), hchunk] at h
  cases h

theorem Exchange.not_stray_of_announced {x : Exchange τ} {link : Document}
    (h : x.announced? = some link) : ¬ x.Stray := by
  cases hhandle : x.handle? with
  | some handle => exact not_stray_of_handle hhandle
  | none =>
    rw [announced_of_unhandled hhandle] at h
    obtain ⟨chunk, hchunk, -⟩ := Option.map_eq_some_iff.mp h
    obtain ⟨-, document, hdocument, -⟩ := shape_of_chunk hchunk
    exact not_stray_of_document hdocument

/-- The last request that brought a handle was the submission, or a question after the state. -/
theorem Heard.last {order : Order} {xs : List (Exchange τ)} {handle : Handle} {polls : Nat}
    (h : Heard order xs handle polls) :
    ∃ before x, xs = before ++ [x] ∧ x.handle? = some handle ∧
      ((polls = 0 ∧ x.errand = .submit order) ∨ (polls ≠ 0 ∧ ∃ id, x.errand = .poll id)) := by
  cases h with
  | submit errand brought => exact ⟨[], _, rfl, brought, .inl ⟨rfl, errand⟩⟩
  | poll prior passing errand brought =>
    exact ⟨_, _, rfl, brought, .inr ⟨Nat.succ_ne_zero _, _, errand⟩⟩

theorem Pages.last {order : Order} {xs : List (Exchange τ)} {result : Progress}
    (h : Pages order xs result) :
    ∃ before x, xs = before ++ [x] ∧ x.announced? = some result.link := by
  obtain ⟨x, hlast, hlink⟩ := h.latest
  obtain ⟨before, hxs⟩ := List.getLast?_eq_some_iff.mp hlast
  exact ⟨before, x, hxs, hlink⟩

/-- A link that cannot be followed is no text, or leads to a chunk that was asked for before. -/
theorem Pages.not_newLink {order : Order} {xs : List (Exchange τ)} {result : Progress}
    (h : Pages order xs result) (lacking : result.newLink? = none) : ¬ NewLink xs result.link := by
  rintro ⟨text, htext, hnew⟩
  obtain ⟨ids, -, herrands⟩ := h.errands
  have hfetched : text ∈ result.fetched := by
    by_contra hother
    simp [Progress.newLink?, htext, hother] at lacking
  have hmem : Errand.fetchChunk text ∈ xs.map Exchange.errand := by
    rw [herrands]
    simp [hfetched]
  obtain ⟨y, hy, herrand⟩ := List.mem_map.mp hmem
  exact hnew y hy herrand

/-! ### Ends -/

/-- **The request that decides an end**: the last one apart from the cancellation, with what was
made before it and after it. -/
structure Decides (xs before : List (Exchange τ)) (x : Exchange τ) (after : List (Exchange τ)) :
    Prop where
  made : xs = before ++ x :: after
  last : ¬ x.Cancels
  cancelled : ∀ y ∈ after, y.Cancels

/-- A fault came of one of the requests. -/
def Raised (xs : List (Exchange τ)) : Prop := ∃ y ∈ xs, ∃ fault, y.answer = .fault fault

theorem Decides.append {xs before : List (Exchange τ)} {x y : Exchange τ}
    (h : Decides xs before x []) (hcancels : y.Cancels) : Decides (xs ++ [y]) before x [y] where
  made := by
    rw [h.made, List.append_assoc]
    rfl
  last := h.last
  cancelled z hz := by
    rw [List.mem_singleton.mp hz]
    exact hcancels

theorem Decides.of_errand {xs : List (Exchange τ)} {x : Exchange τ}
    (h : ∀ id, x.errand ≠ .cancel id) : Decides (xs ++ [x]) xs x [] where
  made := rfl
  last := fun ⟨id, herrand⟩ => h id herrand
  cancelled := by simp

theorem Heard.decides {order : Order} {xs : List (Exchange τ)} {handle : Handle} {polls : Nat}
    (h : Heard order xs handle polls) :
    ∃ before x, Decides xs before x [] ∧ x.handle? = some handle ∧
      ((polls = 0 ∧ x.errand = .submit order) ∨ (polls ≠ 0 ∧ ∃ id, x.errand = .poll id)) := by
  obtain ⟨before, x, hxs, hhandle, herrand⟩ := h.last
  exact ⟨before, x, ⟨hxs, Exchange.not_cancels_of_handle hhandle, by simp⟩, hhandle, herrand⟩

theorem Pages.decides {order : Order} {xs : List (Exchange τ)} {result : Progress}
    (h : Pages order xs result) :
    ∃ before x, Decides xs before x [] ∧ x.announced? = some result.link := by
  obtain ⟨before, x, hxs, hlink⟩ := h.last
  exact ⟨before, x, ⟨hxs, Exchange.not_cancels_of_announced hlink, by simp⟩, hlink⟩

theorem not_raised_nil : ¬ Raised ([] : List (Exchange τ)) := by
  rintro ⟨y, hy, -⟩
  cases hy

section

variable [Zero τ] [Sub τ] [LT τ] [DecidableLT τ] [Timeline τ]

namespace Execution

variable {e : Execution τ} {xs : List (Exchange τ)} {outcome : Except Stop Result}

/-- **An end is settled** by what the last request came to, or by a fault that came of the
cancellation. -/
def Settles (e : Execution τ) (xs : List (Exchange τ)) (outcome : Except Stop Result) : Prop :=
  ∃ before x after, Decides xs before x after ∧
    ((Raised after ∧ ∃ fault, outcome = .error (.fault fault)) ∨
      (¬ Raised after ∧ e.EndsIn before x outcome))

omit [Timeline τ] in
theorem settles_of_endsIn {before : List (Exchange τ)} {x : Exchange τ}
    (hdecides : Decides xs before x []) (h : e.EndsIn before x outcome) : e.Settles xs outcome :=
  ⟨before, x, [], hdecides, .inr ⟨not_raised_nil, h⟩⟩

/-- Before a cancellation the deadline has passed. -/
theorem Late.overdue {handle : Handle} (late : e.Late xs handle) :
    ∃ before x, Decides xs before x [] ∧ e.Comes before x .overdue := by
  cases late with
  | waited heard passing =>
    obtain ⟨before, x, hdecides, hhandle, -⟩ := heard.decides
    exact ⟨before, x, hdecides, Exchange.not_stray_of_handle hhandle,
      .inr ⟨handle, hhandle, passing⟩⟩
  | asked heard passing errand late =>
    obtain ⟨v, hv, hcomes⟩ := endsIn_of_polled errand late
    cases hv
    exact ⟨_, _, .of_errand (by simp [errand]), hcomes⟩

omit [Timeline τ] in
/-- A statement that failed at once, or that ended later without success. -/
theorem settles_of_unsuccessful {order : Order} {handle : Handle} {polls : Nat} {failure : Failure}
    (heard : Heard order xs handle polls) (final : handle.state.isTerminal = true)
    (unsuccessful : handle.state ≠ .succeeded)
    (hkind : failure.kind = if polls = 0 ∧ handle.state = .failed then .remoteRejected
      else .executionFailed) : e.Settles xs (.error (.failure failure)) := by
  obtain ⟨before, x, hdecides, hhandle, herrand⟩ := heard.decides
  have hstray := Exchange.not_stray_of_handle hhandle
  refine settles_of_endsIn hdecides ?_
  by_cases hfailed : handle.state = .failed
  · rcases herrand with ⟨hfirst, herrand⟩ | ⟨hpolled, herrand⟩
    · refine ⟨.rejected, ?_, hstray, .inr ⟨order, handle, herrand, hhandle, hfailed⟩⟩
      rw [Verdict.ofOutcome?, hkind, if_pos ⟨hfirst, hfailed⟩]
      rfl
    · refine ⟨.unsuccessful, ?_, hstray, handle, hhandle, .inr (.inr ⟨hfailed, herrand⟩)⟩
      rw [Verdict.ofOutcome?, hkind, if_neg fun h => hpolled h.1]
      rfl
  · refine ⟨.unsuccessful, ?_, hstray, handle, hhandle, ?_⟩
    · rw [Verdict.ofOutcome?, hkind, if_neg fun h => hfailed h.2]
      rfl
    · cases hstate : handle.state with
      | pending =>
        rw [hstate] at final
        cases final
      | running =>
        rw [hstate] at final
        cases final
      | succeeded => exact absurd hstate unsuccessful
      | failed => exact absurd hstate hfailed
      | canceled => exact .inl rfl
      | closed => exact .inr (.inl rfl)

omit [Timeline τ] in
/-- A success without a first page. -/
theorem settles_of_unpaged {order : Order} {handle : Handle} {polls : Nat} {what : Breach}
    (heard : Heard order xs handle polls) (succeeded : handle.state = .succeeded)
    (lacking : handle.page? = none) : e.Settles xs (.error (.failure (.breach what))) := by
  obtain ⟨before, x, hdecides, hhandle, -⟩ := heard.decides
  refine settles_of_endsIn hdecides ⟨.malformed, rfl, Exchange.not_stray_of_handle hhandle, ?_⟩
  refine .inr (.inl ⟨handle, hhandle, succeeded, ?_⟩)
  intro hresult
  obtain ⟨page, hpage⟩ := Handle.page_isSome_iff.mpr ⟨succeeded, hresult⟩
  rw [lacking] at hpage
  cases hpage

omit [Timeline τ] in
/-- A page that announces what is no new link. -/
theorem settles_of_unlinked {order : Order} {result : Progress} {what : Breach}
    (pages : Pages order xs result) (truthy : result.link.truthy)
    (lacking : result.newLink? = none) : e.Settles xs (.error (.failure (.breach what))) := by
  obtain ⟨before, x, hdecides, hlink⟩ := pages.decides
  have hnew := pages.not_newLink lacking
  rw [hdecides.made] at hnew
  refine settles_of_endsIn hdecides ⟨.malformed, rfl, Exchange.not_stray_of_announced hlink, ?_⟩
  exact .inr (.inr ⟨result.link, hlink, truthy, hnew⟩)

omit [Timeline τ] in
/-- The last page. -/
theorem settles_of_complete {order : Order} {result : Progress} (pages : Pages order xs result)
    (last : ¬ result.link.truthy) : e.Settles xs (.ok result.complete) := by
  obtain ⟨before, x, hdecides, hlink⟩ := pages.decides
  refine settles_of_endsIn hdecides ⟨.complete, rfl, Exchange.not_stray_of_announced hlink, ?_⟩
  exact ⟨result.link, hlink, by simpa using last⟩

/-- **Every execution that is over is settled.** -/
theorem Ended.settles {interval : τ} (ended : e.Ended xs outcome)
    (hinterval : e.job.interval = .ok interval) : e.Settles xs outcome := by
  cases ended with
  | @unsubmitted x stop errand stopped =>
    have hdecides : Decides ([] ++ [x]) [] x [] := .of_errand (by simp [errand])
    exact settles_of_endsIn hdecides (endsIn_of_submitted errand stopped)
  | @rejected x handle heard failed =>
    refine settles_of_unsuccessful heard (by rw [failed]; rfl) (by simp [failed]) ?_
    rw [if_pos ⟨rfl, failed⟩]
    rfl
  | unpaused heard passing interval =>
    rw [hinterval] at interval
    cases interval
  | @unheard xs handle polls x stop heard passing errand stopped early =>
    have hdecides : Decides (xs ++ [x]) xs x [] := .of_errand (by simp [errand])
    exact settles_of_endsIn hdecides (endsIn_of_polled errand stopped)
  | unsuccessful heard final unsuccessful accepted =>
    refine settles_of_unsuccessful heard final unsuccessful ?_
    rw [if_neg fun h => accepted h.1 h.2]
    rfl
  | unpaged heard succeeded lacking => exact settles_of_unpaged heard succeeded lacking
  | unlinked pages truthy lacking => exact settles_of_unlinked pages truthy lacking
  | @unfetched xs result link x stop pages truthy announced errand stopped =>
    have hdecides : Decides (xs ++ [x]) xs x [] := .of_errand (by simp [errand])
    exact settles_of_endsIn hdecides (endsIn_of_documentOf stopped)
  | @unchunked xs result link x document what pages truthy announced errand brought lacking =>
    have hdecides : Decides (xs ++ [x]) xs x [] := .of_errand (by simp [errand])
    refine settles_of_endsIn hdecides (endsIn_of_misshapen brought ?_)
    rw [errand]
    intro hshape
    obtain ⟨chunk, hchunk⟩ := Stage.chunk_isSome_iff.mpr hshape
    rw [lacking] at hchunk
    cases hchunk
  | complete pages last => exact settles_of_complete pages last
  | @expired xs handle y late errand quiet =>
    obtain ⟨before, x, hdecides, hcomes⟩ := late.overdue
    refine ⟨before, x, [y], hdecides.append ⟨_, errand⟩, .inr ⟨?_, .overdue, rfl, hcomes⟩⟩
    rintro ⟨z, hz, fault, hfault⟩
    rw [List.mem_singleton.mp hz] at hfault
    exact quiet fault hfault
  | @uncancelled xs handle y fault late errand raised =>
    obtain ⟨before, x, hdecides, -⟩ := late.overdue
    exact ⟨before, x, [y], hdecides.append ⟨_, errand⟩,
      .inl ⟨⟨y, by simp, fault, raised⟩, fault, rfl⟩⟩

/-- A result is told only after a handle of a success. -/
theorem Ended.succeeded {result : Result} (ended : e.Ended xs (.ok result)) :
    ∃ handle, (handles xs).getLast? = some handle ∧ handle.state = .succeeded := by
  cases ended with
  | complete pages last => exact pages.succeeded

end Execution

end

/-! ### Kinds of ends -/

/-- An outcome is a failure of a kind. -/
def OfKind (kind : Kind) (outcome : Except Stop Result) : Prop :=
  ∃ failure : Failure, outcome = .error (.failure failure) ∧ failure.kind = kind

/-- The kinds of failures in which an execution can end. -/
def endKinds : List Kind :=
  [.remoteUnavailable, .remoteRejected, .executionFailed, .integrityViolation, .timeout]

namespace Verdict

variable {outcome : Except Stop Result}

theorem ofKind_inj {kind other : Kind} {v : Verdict} (h : ofKind? kind = some v)
    (h' : ofKind? other = some v) : kind = other := by
  cases kind <;> cases h <;> cases other <;> cases h' <;> rfl

theorem ofKind_isSome {kind : Kind} {v : Verdict} (h : ofKind? kind = some v) :
    kind ∈ endKinds := by
  cases kind <;> cases h <;> decide

theorem ofOutcome_eq_kind {kind : Kind} {v : Verdict} (h : ofKind? kind = some v) :
    ofOutcome? outcome = some v ↔ OfKind kind outcome := by
  constructor
  · intro hv
    cases outcome with
    | ok result =>
      cases hv
      cases kind <;> cases h
    | error stop =>
      cases stop with
      | failure failure => exact ⟨failure, rfl, ofKind_inj hv h⟩
      | fault fault =>
        cases hv
        cases kind <;> cases h
      | unfinished => cases hv
  · rintro ⟨failure, rfl, hkind⟩
    rw [ofOutcome?, hkind, h]

theorem ofOutcome_eq_stray :
    ofOutcome? outcome = some .stray ↔ ∃ fault, outcome = .error (.fault fault) := by
  constructor
  · intro hv
    cases outcome with
    | ok result => cases hv
    | error stop =>
      cases stop with
      | failure failure =>
        have hkind : ofKind? failure.kind = some .stray := hv
        cases hfound : failure.kind <;> rw [hfound] at hkind <;> cases hkind
      | fault fault => exact ⟨fault, rfl⟩
      | unfinished => cases hv
  · rintro ⟨fault, rfl⟩
    rfl

theorem ofOutcome_eq_complete :
    ofOutcome? outcome = some .complete ↔ ∃ result, outcome = .ok result := by
  constructor
  · intro hv
    cases outcome with
    | ok result => exact ⟨result, rfl⟩
    | error stop =>
      cases stop with
      | failure failure =>
        have hkind : ofKind? failure.kind = some .complete := hv
        cases hfound : failure.kind <;> rw [hfound] at hkind <;> cases hkind
      | fault fault => cases hv
      | unfinished => cases hv
  · rintro ⟨result, rfl⟩
    rfl

end Verdict

section

variable [Zero τ] [Sub τ] [LT τ] [DecidableLT τ]

/-- **A classified end.** The outcome is a failure of a kind if and only if the request that decides
came to it; it is a fault if and only if that request is stray, or the cancellation after it raised
a fault. -/
structure Classified (e : Execution τ) (before : List (Exchange τ)) (x : Exchange τ)
    (after : List (Exchange τ)) (outcome : Except Stop Result) : Prop where
  fault : (∃ fault, outcome = .error (.fault fault)) ↔ x.Stray ∨ Raised after
  unavailable : OfKind .remoteUnavailable outcome ↔ ¬ (x.Stray ∨ Raised after) ∧ e.Unavailable x
  rejected : OfKind .remoteRejected outcome ↔ ¬ (x.Stray ∨ Raised after) ∧ x.Rejected
  unsuccessful : OfKind .executionFailed outcome ↔ ¬ (x.Stray ∨ Raised after) ∧ x.Unsuccessful
  malformed : OfKind .integrityViolation outcome ↔
    ¬ (x.Stray ∨ Raised after) ∧ x.Malformed before
  overdue : OfKind .timeout outcome ↔ ¬ (x.Stray ∨ Raised after) ∧ e.Overdue x
  complete : (∃ result, outcome = .ok result) ↔ ¬ (x.Stray ∨ Raised after) ∧ x.Complete
  /-- There are no failures of another kind. -/
  kinds : ∀ failure : Failure, outcome = .error (.failure failure) → failure.kind ∈ endKinds

namespace Execution

variable {e : Execution τ} {before after : List (Exchange τ)} {x : Exchange τ}
  {outcome : Except Stop Result}

/-- The verdict on an outcome is the one that its request came to. -/
theorem EndsIn.verdict_iff (h : e.EndsIn before x outcome) (v : Verdict) :
    Verdict.ofOutcome? outcome = some v ↔ e.Comes before x v := by
  obtain ⟨w, hw, hcomes⟩ := h
  constructor
  · intro hv
    rw [hw] at hv
    cases hv
    exact hcomes
  · intro hv
    rw [comes_unique hv hcomes]
    exact hw

theorem EndsIn.classified (h : e.EndsIn before x outcome) (hquiet : ¬ Raised after) :
    Classified e before x after outcome := by
  have hstray : x.Stray ∨ Raised after ↔ x.Stray := or_iff_left hquiet
  have hfailure : ∀ {kind v}, Verdict.ofKind? kind = some v →
      (OfKind kind outcome ↔ e.Comes before x v) := by
    intro kind v hkind
    rw [← Verdict.ofOutcome_eq_kind hkind, h.verdict_iff]
  refine ⟨?_, ?_, ?_, ?_, ?_, ?_, ?_, ?_⟩
  · rw [hstray, ← Verdict.ofOutcome_eq_stray, h.verdict_iff]
    rfl
  · rw [hstray, hfailure rfl]
    rfl
  · rw [hstray, hfailure rfl]
    rfl
  · rw [hstray, hfailure rfl]
    rfl
  · rw [hstray, hfailure rfl]
    rfl
  · rw [hstray, hfailure rfl]
    rfl
  · rw [hstray, ← Verdict.ofOutcome_eq_complete, h.verdict_iff]
    rfl
  · rintro failure rfl
    obtain ⟨v, hv, -⟩ := h
    exact Verdict.ofKind_isSome hv

theorem classified_of_raised (e : Execution τ) (before : List (Exchange τ)) (x : Exchange τ)
    (fault : Fault) (hraised : Raised after) :
    Classified e before x after (.error (.fault fault)) := by
  have hstray : x.Stray ∨ Raised after := .inr hraised
  have hfailure : ∀ kind, ¬ OfKind kind (.error (.fault fault)) := by
    rintro kind ⟨failure, hfailure, -⟩
    cases hfailure
  refine ⟨?_, ?_, ?_, ?_, ?_, ?_, ?_, ?_⟩
  · exact iff_of_true ⟨fault, rfl⟩ hstray
  · exact iff_of_false (hfailure _) fun h => h.1 hstray
  · exact iff_of_false (hfailure _) fun h => h.1 hstray
  · exact iff_of_false (hfailure _) fun h => h.1 hstray
  · exact iff_of_false (hfailure _) fun h => h.1 hstray
  · exact iff_of_false (hfailure _) fun h => h.1 hstray
  · refine iff_of_false ?_ fun h => h.1 hstray
    rintro ⟨result, hresult⟩
    cases hresult
  · intro failure hfailure
    cases hfailure

theorem Settles.classified {xs : List (Exchange τ)} (h : e.Settles xs outcome) :
    ∃ before x after, Decides xs before x after ∧ Classified e before x after outcome := by
  obtain ⟨before, x, after, hdecides, ⟨hraised, fault, rfl⟩ | ⟨hquiet, hends⟩⟩ := h
  · exact ⟨before, x, after, hdecides, classified_of_raised e before x fault hraised⟩
  · exact ⟨before, x, after, hdecides, hends.classified hquiet⟩

end Execution

end

/-! ### Executions -/

variable [Zero τ] [Add τ] [Sub τ] [LT τ] [LE τ] [DecidableLT τ] [DecidableLE τ] [Timeline τ]

/-- With plain replies no fault comes of a request that went to an address with a scheme. -/
theorem Course.quiet {e : Execution τ} {start s : Session τ} {xs : List (Exchange τ)}
    {stage : Stage} (h : Course e start xs stage s) (hplain : start.script.Plain) {x : Exchange τ}
    (hx : x ∈ xs) {url : Web.Url} (hurl : x.url = some url) (hscheme : url.checkScheme = .ok ())
    (fault : Fault) : x.answer ≠ .fault fault := by
  obtain ⟨_, _, _, _, _, -, hprior, -, hmade⟩ := h.made hx
  exact Session.answer_of_plain hmade (hprior.plain hplain) hurl hscheme

namespace Client

variable {client : Client τ} {job : Job τ} {s : Session τ} {interval : τ}

/-- **Every execution that is over is classified** by its last request apart from the cancellation,
unless the client cannot connect. A result follows only after the handle of a success. -/
theorem execute_classified (patience : Nat) (hconf : client.checkConfigured = .ok ())
    (hinterval : job.interval = .ok interval) :
    (client.execute patience job s).1 = .error .unfinished ∨
    (∃ fault, client.connect = .error fault ∧
      client.execute patience job s = (.error (.fault fault), s)) ∨
    ∃ connection xs before x after, client.connect = .ok connection ∧
      (client.execute patience job s).2.exchanges = s.exchanges ++ xs ∧
      Decides xs before x after ∧
      Classified (client.execution connection job s) before x after
        (client.execute patience job s).1 ∧
      (∀ result, (client.execute patience job s).1 = .ok result →
        ∃ handle, (handles xs).getLast? = some handle ∧ handle.state = .succeeded) ∧
      (s.script.Plain → ∀ y ∈ xs, ∀ url, y.url = some url → url.checkScheme = .ok () →
        ∀ fault, y.answer ≠ .fault fault) := by
  rcases execute_course client job s patience with ⟨failure, hfail, -⟩ | ⟨fault, -, hconn, heq⟩ |
    ⟨connection, xs, stage, ended, -, hconn, hcourse, heq⟩
  · rw [hfail] at hconf
    cases hconf
  · exact .inr (.inl ⟨fault, hconn, heq⟩)
  · rw [heq]
    cases stage with
    | finished outcome =>
      have hended : (client.execution connection job s).Ended xs outcome := hcourse.history
      obtain ⟨before, x, after, hdecides, hclassified⟩ := (hended.settles hinterval).classified
      refine .inr (.inr ⟨connection, xs, before, x, after, hconn, hcourse.exchanges_eq, hdecides,
        hclassified, ?_, ?_⟩)
      · rintro result hresult
        rw [show outcome = .ok result from hresult] at hended
        exact hended.succeeded
      · intro hplain y hy url hurl hscheme fault
        exact hcourse.quiet hplain hy hurl hscheme fault
    | _ => exact .inl rfl

/-- A connection that fails ends the execution before a statement is accepted. -/
theorem execute_brokenSession : (exactClient.execute 1 exactJob brokenSession).1 =
    .error (.failure (.unreachable .submit "ConnectError")) := by
  have hconf : exactClient.checkConfigured = .ok () := by rfl
  have hlimit : ¬ (exactClient.execution exactConnection exactJob brokenSession).limit
      brokenSession.now ≤ 0 := by
    decide +kernel
  obtain ⟨x, script, hmade⟩ : ∃ x script, brokenSession.exchange exactConnection
      ((exactClient.execution exactConnection exactJob brokenSession).limit brokenSession.now)
      (.submit (exactClient.order exactJob.statement)) = (x, script) := ⟨_, _, rfl⟩
  have hanswer : x.answer = .broken "ConnectError" :=
    Session.answer_of_reply hlimit exactConnection_address hmade rfl
  have hstop : (exactClient.execution exactConnection exactJob brokenSession).submitted x =
      .error (.failure (.unreachable .submit "ConnectError")) := by
    unfold Execution.submitted documentOf responseOf
    rw [hanswer]
    rfl
  rw [execute_unsubmitted 0 hconf exactClient_connect hmade hstop]

/-- The request that could not be made decides the end. -/
theorem execute_classified_broken :
    exactClient.checkConfigured = .ok () ∧ exactJob.interval = .ok (1 / 2) ∧
      ∃ connection xs before x after,
        (exactClient.execute 1 exactJob brokenSession).2.exchanges =
          brokenSession.exchanges ++ xs ∧
        Decides xs before x after ∧
        Classified (exactClient.execution connection exactJob brokenSession) before x after
          (exactClient.execute 1 exactJob brokenSession).1 ∧
        (exactClient.execution connection exactJob brokenSession).Unavailable x := by
  have hconf : exactClient.checkConfigured = .ok () := by rfl
  have hinterval : exactJob.interval = .ok (1 / 2) := by rfl
  refine ⟨hconf, hinterval, ?_⟩
  rcases execute_classified 1 hconf hinterval with hopen | ⟨fault, hconn, -⟩ |
    ⟨connection, xs, before, x, after, -, hmade, hdecides, hclassified, -, -⟩
  · rw [execute_brokenSession] at hopen
    cases hopen
  · rw [exactClient_connect] at hconn
    cases hconn
  · have hkind : OfKind .remoteUnavailable (exactClient.execute 1 exactJob brokenSession).1 :=
      ⟨_, execute_brokenSession, rfl⟩
    exact ⟨connection, xs, before, x, after, hmade, hdecides, hclassified,
      (hclassified.unavailable.mp hkind).2⟩

end Client

/-! ### Refusals that cannot be told -/

/-- The octets of a text in UTF-16 that has no byte order mark. -/
def unmarkedOctets : List UInt8 := [0xC3, 0xA9, 0x41, 0x80]

/-- A refusal with this text. -/
def untoldRefusal : Response := ⟨500, none, .ofOctets utf16Headers unmarkedOctets⟩

/-- A warehouse that answers with this refusal. -/
def untoldSession : Session Rat :=
  { now := 0
    script := ⟨[⟨none, .ofResponse 500 utf16Headers (.octets unmarkedOctets)⟩], none⟩
    exchanges := []
    log := [] }

theorem ofResponse_unmarkedOctets :
    Reply.ofResponse 500 utf16Headers (.octets unmarkedOctets) = .response untoldRefusal := by
  rfl

theorem untoldRefusal_message : untoldRefusal.message = .error (.unreadable (.unmarked 16)) := by
  have htext : untoldRefusal.body.text = .error (.unreadable (.unmarked 16)) := by
    show Body.textOf utf16Headers unmarkedOctets = _
    rw [Body.textOf_utf16 (by decide)]
    rfl
  have hdocument : untoldRefusal.body.document = .error .unreadable := by rfl
  unfold Response.message
  rw [hdocument, htext]

theorem ofReply_unmarkedOctets : Answer.ofReply exactAddress
    (.ofResponse 500 utf16Headers (.octets unmarkedOctets)) = .response untoldRefusal := by
  have hscheme : exactAddress.checkScheme = .ok () := by rfl
  rw [ofResponse_unmarkedOctets, Answer.ofReply, hscheme]
  rfl

namespace Client

theorem accept_untoldRefusal (phase : Phase) (statement : Option String) :
    accept phase statement untoldRefusal = .error (.fault (.unreadable (.unmarked 16))) := by
  unfold accept
  rw [untoldRefusal_message]
  rfl

/-- **A refusal whose text cannot be told** is an end of no kind, though the warehouse says that it
is not available. -/
theorem execute_refused_untold :
    ∃ x, (exactClient.execute 1 exactJob untoldSession).2.exchanges = [x] ∧
      x.answer = .response untoldRefusal ∧
      (exactClient.execute 1 exactJob untoldSession).1 =
        .error (.fault (.unreadable (.unmarked 16))) := by
  have hconf : exactClient.checkConfigured = .ok () := by rfl
  have hlimit : ¬ (exactClient.execution exactConnection exactJob untoldSession).limit
      untoldSession.now ≤ 0 := by
    decide +kernel
  obtain ⟨x, script, hmade⟩ : ∃ x script, untoldSession.exchange exactConnection
      ((exactClient.execution exactConnection exactJob untoldSession).limit untoldSession.now)
      (.submit (exactClient.order exactJob.statement)) = (x, script) := ⟨_, _, rfl⟩
  have hanswer : x.answer = .response untoldRefusal := by
    rw [Session.answer_of_reply hlimit exactConnection_address hmade rfl]
    exact ofReply_unmarkedOctets
  have hstop : (exactClient.execution exactConnection exactJob untoldSession).submitted x =
      .error (.fault (.unreadable (.unmarked 16))) := by
    unfold Execution.submitted documentOf responseOf
    rw [hanswer]
    simp only [bind, Except.bind, accept_untoldRefusal]
  rw [execute_unsubmitted 0 hconf exactClient_connect hmade hstop]
  exact ⟨x, rfl, hanswer, rfl⟩

end Client

end Indicator.Warehouse
