import Indicator.Proofs.Warehouse.Order
import Indicator.Proofs.Warehouse.Shape

/-!
# What a request comes to

The verdict on a request, told by its answer alone and by the chunks that were asked for before it.

* `Unavailable`, `Rejected`, `Unsuccessful`, `Malformed`, `Overdue`, `Complete`: what a request can
  come to.
* `Stray`: what no kind of failure stands for. A refusal is one of these if its body is no document
  and its text cannot be told either.
* `Execution.Shows`, `Exchange.Tells`: what comes of the answer itself, and what of the handle or
  the chunk that was read from it. `Execution.verdict` is the verdict that both lead to.
* `Execution.comes_unique`: **a request comes to one of these at most.**
-/

namespace Indicator.Warehouse

open Json (Document)

variable {τ : Type}

/-! ### What a request comes to -/

/-- The shape that an answer to a request has to have. -/
def AnswerShape : Errand → Document → Prop
  | .submit _, document => ∃ body, document = .object body ∧ HandleShape none body
  | .poll id, document => ∃ body, document = .object body ∧ HandleShape (some id) body
  | .fetchChunk _, document => ChunkShape document
  | .cancel _, _ => True

/-- A link to a chunk that was not asked for yet. -/
def NewLink (xs : List (Exchange τ)) (link : Document) : Prop :=
  ∃ text, link = .str text ∧ ∀ y ∈ xs, y.errand ≠ .fetchChunk text

namespace Exchange

/-- The request was refused, or the statement failed at once. -/
def Rejected (x : Exchange τ) : Prop :=
  (∃ response, x.answer = .response response ∧ 400 ≤ response.status ∧ response.status < 500 ∧
    response.status ≠ 429) ∨
  ∃ order handle, x.errand = .submit order ∧ x.handle? = some handle ∧ handle.state = .failed

/-- The statement was accepted and ended without success. -/
def Unsuccessful (x : Exchange τ) : Prop :=
  ∃ handle, x.handle? = some handle ∧ (handle.state = .canceled ∨ handle.state = .closed ∨
    (handle.state = .failed ∧ ∃ id, x.errand = .poll id))

/-- The answer is no document, or one of another shape, or it announces what is no new link. -/
def Malformed (before : List (Exchange τ)) (x : Exchange τ) : Prop :=
  (∃ response, x.answer = .response response ∧ response.status < 400 ∧
    ((∃ refusal, response.body.document = .error refusal) ∨
      ∃ document, response.body.document = .ok document ∧ ¬ AnswerShape x.errand document)) ∨
  (∃ handle, x.handle? = some handle ∧ handle.state = .succeeded ∧
    ¬ ∃ result, handle.result = some result ∧ ResultShape result) ∨
  ∃ link, x.announced? = some link ∧ link.truthy ∧ ¬ NewLink (before ++ [x]) link

/-- The last page of the result came. -/
def Complete (x : Exchange τ) : Prop := ∃ link, x.announced? = some link ∧ link.truthy = false

/-- Something came of the request that no kind of failure stands for: a fault was raised, the
answer is nested too deep, or it refuses the request for a reason that cannot be told. -/
def Stray (x : Exchange τ) : Prop :=
  (∃ fault, x.answer = .fault fault) ∨
  ∃ response, x.answer = .response response ∧
    ((∃ what, response.body.document = .error (.tooDeep what)) ∨
      (400 ≤ response.status ∧ (∃ refusal, response.body.document = .error refusal) ∧
        ∃ fault, response.body.text = .error fault))

end Exchange

section

variable [Zero τ] [Sub τ] [LT τ] [DecidableLT τ]

namespace Execution

/-- Less time was left before the deadline than a request may take. -/
def Hurried (e : Execution τ) (x : Exchange τ) : Prop :=
  later 0 (e.deadlineAt - x.startedAt) < e.client.httpTimeout

instance (e : Execution τ) (x : Exchange τ) : Decidable (e.Hurried x) :=
  inferInstanceAs (Decidable (_ < _))

/-- The warehouse was not reached, or not in time, or it says that it is not available. -/
def Unavailable (e : Execution τ) (x : Exchange τ) : Prop :=
  (∃ reason, x.answer = .broken reason) ∨ (x.answer = .timedOut ∧ ¬ e.Hurried x) ∨
  ∃ response, x.answer = .response response ∧ (response.status = 429 ∨ 500 ≤ response.status)

/-- The deadline passed, while the request was under way or after its answer. -/
def Overdue (e : Execution τ) (x : Exchange τ) : Prop :=
  (x.answer = .timedOut ∧ e.Hurried x) ∨
  ∃ handle, x.handle? = some handle ∧ handle.state.isTerminal = false

end Execution

end

/-! ### Verdicts -/

/-- The ways in which an execution can end. -/
inductive Verdict
  | stray
  | unavailable
  | rejected
  | unsuccessful
  | malformed
  | overdue
  | complete
deriving DecidableEq, Repr

/-- The verdict that a kind of failure stands for. -/
def Verdict.ofKind? : Kind → Option Verdict
  | .remoteUnavailable => some unavailable
  | .remoteRejected => some rejected
  | .executionFailed => some unsuccessful
  | .integrityViolation => some malformed
  | .timeout => some overdue
  | .invalidRequest | .configuration | .internal | .requestTimeout => none

/-- The verdict that an outcome stands for. -/
def Verdict.ofOutcome? : Except Stop Result → Option Verdict
  | .ok _ => some complete
  | .error (.failure failure) => ofKind? failure.kind
  | .error (.fault _) => some stray
  | .error .unfinished => none

section

variable [Zero τ] [Sub τ] [LT τ] [DecidableLT τ]

/-- What the last request came to, as a verdict. -/
def Execution.Comes (e : Execution τ) (before : List (Exchange τ)) (x : Exchange τ) :
    Verdict → Prop
  | .stray => x.Stray
  | .unavailable => ¬ x.Stray ∧ e.Unavailable x
  | .rejected => ¬ x.Stray ∧ x.Rejected
  | .unsuccessful => ¬ x.Stray ∧ x.Unsuccessful
  | .malformed => ¬ x.Stray ∧ x.Malformed before
  | .overdue => ¬ x.Stray ∧ e.Overdue x
  | .complete => ¬ x.Stray ∧ x.Complete

end

/-- The verdict on a link at the end of a page. -/
def Verdict.ofLink (link : Document) : Verdict := if link.truthy then malformed else complete

/-- The verdict on a handle. -/
def Verdict.ofHandle (submitted : Bool) (handle : Handle) : Verdict :=
  match handle.state with
  | .pending | .running => overdue
  | .canceled | .closed => unsuccessful
  | .failed => if submitted then rejected else unsuccessful
  | .succeeded =>
    match handle.page? with
    | none => malformed
    | some (_, link) => ofLink link

/-- The verdict on an answer that was read. -/
def Exchange.verdict (x : Exchange τ) : Verdict :=
  match x.errand, x.handle?, x.chunk? with
  | .submit _, some handle, _ => .ofHandle true handle
  | _, some handle, _ => .ofHandle false handle
  | _, none, some (_, link) => .ofLink link
  | _, none, none => .malformed

/-- What a request comes to by what was read from its answer. -/
def Exchange.Tells (before : List (Exchange τ)) (x : Exchange τ) : Verdict → Prop
  | .rejected =>
    ∃ order handle, x.errand = .submit order ∧ x.handle? = some handle ∧ handle.state = .failed
  | .unsuccessful => x.Unsuccessful
  | .malformed =>
    (∃ handle, x.handle? = some handle ∧ handle.state = .succeeded ∧
      ¬ ∃ result, handle.result = some result ∧ ResultShape result) ∨
    ∃ link, x.announced? = some link ∧ link.truthy ∧ ¬ NewLink (before ++ [x]) link
  | .overdue => ∃ handle, x.handle? = some handle ∧ handle.state.isTerminal = false
  | .complete => x.Complete
  | .stray | .unavailable => False

section

variable [Zero τ] [Sub τ] [LT τ] [DecidableLT τ]

/-- What a request comes to by its answer, of which nothing was read. -/
def Execution.Shows (e : Execution τ) (x : Exchange τ) : Verdict → Prop
  | .unavailable => e.Unavailable x
  | .rejected => ∃ response, x.answer = .response response ∧ 400 ≤ response.status ∧
      response.status < 500 ∧ response.status ≠ 429
  | .malformed => ∃ response, x.answer = .response response ∧ response.status < 400 ∧
      ((∃ refusal, response.body.document = .error refusal) ∨
        ∃ document, response.body.document = .ok document ∧ ¬ AnswerShape x.errand document)
  | .overdue => x.answer = .timedOut ∧ e.Hurried x
  | .stray | .unsuccessful | .complete => False

/-- The verdict on a request that is not stray. -/
def Execution.verdict (e : Execution τ) (x : Exchange τ) : Verdict :=
  match x.answer with
  | .fault _ => .stray
  | .broken _ => .unavailable
  | .timedOut => if e.Hurried x then .overdue else .unavailable
  | .response response =>
    if 500 ≤ response.status ∨ response.status = 429 then .unavailable
    else if 400 ≤ response.status then .rejected
    else if x.document?.isNone then .malformed
    else x.verdict

end

/-! ### What was read from answers -/

namespace Exchange

variable {x : Exchange τ}

/-- A handle comes with an answer of its shape to a submission or to a question after a state. -/
theorem shape_of_handle {handle : Handle} (h : x.handle? = some handle) :
    ((∃ order, x.errand = .submit order) ∨ ∃ id, x.errand = .poll id) ∧
      ∃ document, x.document? = some document ∧ AnswerShape x.errand document := by
  cases herrand : x.errand with
  | submit order =>
    rw [handle?, herrand] at h
    obtain ⟨document, hdocument, hread⟩ := Option.bind_eq_some_iff.mp h
    exact ⟨.inl ⟨order, rfl⟩, document, hdocument,
      Handle.read_ok_iff.mp ⟨handle, toOption_eq_some.mp hread⟩⟩
  | poll id =>
    rw [handle?, herrand] at h
    obtain ⟨document, hdocument, hread⟩ := Option.bind_eq_some_iff.mp h
    exact ⟨.inr ⟨id, rfl⟩, document, hdocument,
      Handle.read_ok_iff.mp ⟨handle, toOption_eq_some.mp hread⟩⟩
  | fetchChunk link =>
    rw [handle?, herrand] at h
    cases h
  | cancel id =>
    rw [handle?, herrand] at h
    cases h

/-- A chunk comes with an answer of its shape to a request for one. -/
theorem shape_of_chunk {chunk : List Document × Document} (h : x.chunk? = some chunk) :
    (∃ link, x.errand = .fetchChunk link) ∧
      ∃ document, x.document? = some document ∧ AnswerShape x.errand document := by
  cases herrand : x.errand with
  | fetchChunk link =>
    rw [chunk?, herrand] at h
    obtain ⟨document, hdocument, hread⟩ := Option.bind_eq_some_iff.mp h
    exact ⟨⟨link, rfl⟩, document, hdocument, Stage.chunk_isSome_iff.mp ⟨chunk, hread⟩⟩
  | submit order =>
    rw [chunk?, herrand] at h
    cases h
  | poll id =>
    rw [chunk?, herrand] at h
    cases h
  | cancel id =>
    rw [chunk?, herrand] at h
    cases h

/-- A document comes with a response that is no refusal. -/
theorem accepted_of_document {document : Document} (h : x.document? = some document) :
    ∃ response, x.answer = .response response ∧ response.status < 400 ∧
      response.body.document = .ok document := by
  unfold document? at h
  split at h
  · rename_i response hanswer
    rw [Option.ite_none_right_eq_some] at h
    exact ⟨response, hanswer, h.1, toOption_eq_some.mp h.2⟩
  · cases h

theorem announced_of_handle {handle : Handle} (h : x.handle? = some handle) :
    x.announced? = handle.page?.map (·.2) := by
  rw [announced?, h]

theorem announced_of_unhandled (h : x.handle? = none) : x.announced? = x.chunk?.map (·.2) := by
  rw [announced?, h]

theorem verdict_of_handle {handle : Handle} (h : x.handle? = some handle) :
    ((∃ order, x.errand = .submit order) → x.verdict = .ofHandle true handle) ∧
      ((∃ id, x.errand = .poll id) → x.verdict = .ofHandle false handle) := by
  constructor
  · rintro ⟨order, herrand⟩
    rw [verdict, herrand, h]
  · rintro ⟨id, herrand⟩
    rw [verdict, herrand, h]

theorem verdict_of_unhandled (h : x.handle? = none) :
    x.verdict = match x.chunk? with
      | some (_, link) => .ofLink link
      | none => .malformed := by
  rw [verdict, h]
  cases x.errand <;> cases x.chunk? <;> rfl

variable {before : List (Exchange τ)} {v : Verdict}

/-- A handle tells of one verdict. -/
theorem verdict_of_heard {handle : Handle} (hhandle : x.handle? = some handle)
    (h : x.Tells before v) : x.verdict = v := by
  obtain ⟨hsubmit, hpoll⟩ := verdict_of_handle hhandle
  obtain ⟨submitted, hverdict⟩ : ∃ submitted, x.verdict = .ofHandle submitted handle := by
    rcases (shape_of_handle hhandle).1 with herrand | herrand
    · exact ⟨true, hsubmit herrand⟩
    · exact ⟨false, hpoll herrand⟩
  have hlink : ∀ link, x.announced? = some link →
      handle.state = .succeeded ∧ ∃ rows, handle.page? = some (rows, link) := by
    intro link hlink
    rw [announced_of_handle hhandle] at hlink
    obtain ⟨⟨rows, found⟩, hpage, rfl⟩ := Option.map_eq_some_iff.mp hlink
    exact ⟨Handle.succeeded_of_page hpage, rows, hpage⟩
  cases v with
  | stray => exact absurd h id
  | unavailable => exact absurd h id
  | rejected =>
    obtain ⟨order, found, horder, hfound, hstate⟩ := h
    rw [hhandle] at hfound
    cases hfound
    rw [hsubmit ⟨order, horder⟩, Verdict.ofHandle, hstate]
    rfl
  | unsuccessful =>
    obtain ⟨found, hfound, hstate⟩ := h
    rw [hhandle] at hfound
    cases hfound
    rcases hstate with hstate | hstate | ⟨hstate, hid⟩
    · rw [hverdict, Verdict.ofHandle, hstate]
    · rw [hverdict, Verdict.ofHandle, hstate]
    · rw [hpoll hid, Verdict.ofHandle, hstate]
      rfl
  | malformed =>
    rw [hverdict, Verdict.ofHandle]
    rcases h with ⟨found, hfound, hstate, hbad⟩ | ⟨link, hannounced, htruthy, -⟩
    · rw [hhandle] at hfound
      cases hfound
      have hpage : handle.page? = none := by
        cases hpage : handle.page? with
        | none => rfl
        | some page => exact absurd (Handle.page_isSome_iff.mp ⟨page, hpage⟩).2 hbad
      rw [hstate, hpage]
    · obtain ⟨hstate, rows, hpage⟩ := hlink link hannounced
      rw [hstate, hpage]
      exact if_pos htruthy
  | overdue =>
    obtain ⟨found, hfound, hpassing⟩ := h
    rw [hhandle] at hfound
    cases hfound
    rw [hverdict, Verdict.ofHandle]
    cases hstate : handle.state <;> rw [hstate] at hpassing <;> first | rfl | cases hpassing
  | complete =>
    obtain ⟨link, hannounced, hlast⟩ := h
    obtain ⟨hstate, rows, hpage⟩ := hlink link hannounced
    rw [hverdict, Verdict.ofHandle, hstate, hpage]
    exact if_neg (by simp [hlast])

theorem verdict_of_fetched {rows : List Document} {link : Document} (hhandle : x.handle? = none)
    (hchunk : x.chunk? = some (rows, link)) (h : x.Tells before v) : x.verdict = v := by
  have hannounced : x.announced? = some link := by
    rw [announced_of_unhandled hhandle, hchunk]
    rfl
  have hverdict : x.verdict = .ofLink link := by
    rw [verdict_of_unhandled hhandle, hchunk]
  have hnone : ∀ handle, x.handle? ≠ some handle := by
    intro handle hsome
    rw [hhandle] at hsome
    cases hsome
  rw [hverdict]
  cases v with
  | stray => exact absurd h id
  | unavailable => exact absurd h id
  | rejected =>
    obtain ⟨order, handle, -, hsome, -⟩ := h
    exact absurd hsome (hnone handle)
  | unsuccessful =>
    obtain ⟨handle, hsome, -⟩ := h
    exact absurd hsome (hnone handle)
  | malformed =>
    rcases h with ⟨handle, hsome, -⟩ | ⟨found, hfound, htruthy, -⟩
    · exact absurd hsome (hnone handle)
    · rw [hannounced] at hfound
      cases hfound
      exact if_pos htruthy
  | overdue =>
    obtain ⟨handle, hsome, -⟩ := h
    exact absurd hsome (hnone handle)
  | complete =>
    obtain ⟨found, hfound, hlast⟩ := h
    rw [hannounced] at hfound
    cases hfound
    exact if_neg (by simp [hlast])

/-- Only a handle or a chunk tells something. -/
theorem handle_or_chunk_of_tells (h : x.Tells before v) :
    (∃ handle, x.handle? = some handle) ∨
      x.handle? = none ∧ ∃ rows link, x.chunk? = some (rows, link) := by
  cases hhandle : x.handle? with
  | some handle => exact .inl ⟨handle, rfl⟩
  | none =>
    have hannounced : ∀ link, x.announced? = some link →
        ∃ rows link, x.chunk? = some (rows, link) := by
      intro link hlink
      rw [announced_of_unhandled hhandle] at hlink
      obtain ⟨⟨rows, next⟩, hchunk, -⟩ := Option.map_eq_some_iff.mp hlink
      exact ⟨rows, next, hchunk⟩
    refine .inr ⟨rfl, ?_⟩
    cases v with
    | stray => exact absurd h id
    | unavailable => exact absurd h id
    | rejected =>
      obtain ⟨order, handle, -, hsome, -⟩ := h
      rw [hhandle] at hsome
      cases hsome
    | unsuccessful =>
      obtain ⟨handle, hsome, -⟩ := h
      rw [hhandle] at hsome
      cases hsome
    | malformed =>
      rcases h with ⟨handle, hsome, -⟩ | ⟨link, hlink, -⟩
      · rw [hhandle] at hsome
        cases hsome
      · exact hannounced link hlink
    | overdue =>
      obtain ⟨handle, hsome, -⟩ := h
      rw [hhandle] at hsome
      cases hsome
    | complete =>
      obtain ⟨link, hlink, -⟩ := h
      exact hannounced link hlink

end Exchange

/-! ### One verdict only -/

section

variable [Zero τ] [Sub τ] [LT τ] [DecidableLT τ]

namespace Execution

variable {e : Execution τ} {before : List (Exchange τ)} {x : Exchange τ} {v : Verdict}

theorem shows_or_tells (hstray : ¬ x.Stray) (h : e.Comes before x v) :
    e.Shows x v ∨ x.Tells before v := by
  cases v with
  | stray => exact absurd h hstray
  | unavailable => exact .inl h.2
  | rejected => exact h.2
  | unsuccessful => exact .inr h.2
  | malformed => exact h.2
  | overdue => exact h.2
  | complete => exact .inr h.2

theorem verdict_of_accepted {response : Response} (hanswer : x.answer = .response response)
    (hstatus : response.status < 400) :
    e.verdict x = if x.document?.isNone then .malformed else x.verdict := by
  rw [verdict, hanswer]
  dsimp only
  rw [if_neg (by omega), if_neg (by omega)]

/-- An answer of another shape than it has to have brings neither a handle nor a chunk. -/
theorem verdict_of_misshapen {response : Response} {document : Document}
    (hanswer : x.answer = .response response) (hstatus : response.status < 400)
    (hbody : response.body.document = .ok document) (hshape : ¬ AnswerShape x.errand document) :
    e.verdict x = .malformed := by
  have honly : ∀ found, x.document? = some found → ¬ AnswerShape x.errand found := by
    intro found hfound
    obtain ⟨other, hother, -, hdocument⟩ := Exchange.accepted_of_document hfound
    rw [hanswer] at hother
    cases hother
    rw [hbody] at hdocument
    cases hdocument
    exact hshape
  have hhandle : x.handle? = none := by
    cases hhandle : x.handle? with
    | none => rfl
    | some handle =>
      obtain ⟨-, found, hfound, htold⟩ := Exchange.shape_of_handle hhandle
      exact absurd htold (honly found hfound)
  have hchunk : x.chunk? = none := by
    cases hchunk : x.chunk? with
    | none => rfl
    | some chunk =>
      obtain ⟨-, found, hfound, htold⟩ := Exchange.shape_of_chunk hchunk
      exact absurd htold (honly found hfound)
  rw [verdict_of_accepted hanswer hstatus, Exchange.verdict_of_unhandled hhandle, hchunk]
  exact ite_self _

theorem verdict_of_shows (h : e.Shows x v) : e.verdict x = v := by
  cases v with
  | stray => exact absurd h id
  | unavailable =>
    rcases h with ⟨reason, hanswer⟩ | ⟨hanswer, hcalm⟩ | ⟨response, hanswer, hserver⟩
    · rw [verdict, hanswer]
    · rw [verdict, hanswer]
      exact if_neg hcalm
    · rw [verdict, hanswer]
      exact if_pos hserver.symm
  | rejected =>
    obtain ⟨response, hanswer, hrefused, hbelow, hother⟩ := h
    rw [verdict, hanswer]
    dsimp only
    rw [if_neg (by omega), if_pos hrefused]
  | unsuccessful => exact absurd h id
  | malformed =>
    obtain ⟨response, hanswer, hstatus, ⟨refusal, hrefusal⟩ | ⟨document, hbody, hshape⟩⟩ := h
    · have hnone : x.document? = none := by
        rw [Exchange.document?, hanswer]
        dsimp only
        rw [if_pos hstatus, hrefusal]
        rfl
      rw [verdict_of_accepted hanswer hstatus, hnone]
      rfl
    · exact verdict_of_misshapen hanswer hstatus hbody hshape
  | overdue =>
    obtain ⟨hanswer, hhurried⟩ := h
    rw [verdict, hanswer]
    exact if_pos hhurried
  | complete => exact absurd h id

theorem verdict_of_document {document : Document} (h : x.document? = some document) :
    e.verdict x = x.verdict := by
  obtain ⟨response, hanswer, hstatus, -⟩ := Exchange.accepted_of_document h
  rw [verdict_of_accepted hanswer hstatus, h]
  rfl

theorem verdict_of_tells (h : x.Tells before v) : e.verdict x = v := by
  rcases Exchange.handle_or_chunk_of_tells h with ⟨handle, hhandle⟩ |
    ⟨hhandle, rows, link, hchunk⟩
  · obtain ⟨-, document, hdocument, -⟩ := Exchange.shape_of_handle hhandle
    rw [verdict_of_document hdocument]
    exact Exchange.verdict_of_heard hhandle h
  · obtain ⟨-, document, hdocument, -⟩ := Exchange.shape_of_chunk hchunk
    rw [verdict_of_document hdocument]
    exact Exchange.verdict_of_fetched hhandle hchunk h

theorem verdict_of_comes (hstray : ¬ x.Stray) (h : e.Comes before x v) : e.verdict x = v := by
  rcases shows_or_tells hstray h with hshows | htells
  · exact verdict_of_shows hshows
  · exact verdict_of_tells htells

/-- **A request comes to one verdict at most.** -/
theorem comes_unique {w : Verdict} (h : e.Comes before x v) (h' : e.Comes before x w) : v = w := by
  by_cases hstray : x.Stray
  · have hall : ∀ u, e.Comes before x u → u = .stray := by
      intro u hu
      cases u with
      | stray => rfl
      | _ => exact absurd hstray hu.1
    rw [hall v h, hall w h']
  · rw [← verdict_of_comes hstray h, verdict_of_comes hstray h']

end Execution

end

end Indicator.Warehouse
