import Mathlib.Data.List.Nodup
import Indicator.Proofs.Warehouse.History

/-!
# The order of requests

Which requests an execution sends, and in which order, whatever the warehouse answers and however
long it takes.

* `Word order errands`: one submission, then questions after the state, then either the
  cancellation or chunks. `Lines lines`: the same, by method and path.
* `Follows order before errand`: what must have come back before a request may be sent.
  `Orderly order xs`: each of the requests follows those before it.
* `Conversation`: the requests sent and the outcome they lead to.
* `Execution.History.conversation`: **the requests of a history that were sent are a conversation.**
-/

namespace Indicator.Warehouse

open Json (Document)

variable {τ : Type}

/-! ### Requests that were sent -/

namespace Errand

/-- The method of a request and the link that it asks for. -/
def line (errand : Errand) : String × String := (errand.method, errand.link)

def isPoll : Errand → Bool
  | poll _ => true
  | _ => false

end Errand

/-- The requests that were sent, of all that were made. -/
def sent (xs : List (Exchange τ)) : List (Exchange τ) := xs.filter (·.url.isSome)

/-- The handles that were received, in order. -/
def handles (xs : List (Exchange τ)) : List Handle := xs.filterMap Exchange.handle?

/-- The link to the next chunk, as a handle or a chunk announces it. -/
def Exchange.announced? (x : Exchange τ) : Option Document :=
  match x.handle? with
  | some handle => handle.page?.map (·.2)
  | none => x.chunk?.map (·.2)

/-- Whether a deadline has passed, as the outcome tells. -/
def TimedOut (outcome : Except Stop Result) : Prop :=
  ∃ failure : Failure, outcome = .error (.failure failure) ∧ failure.kind = .timeout

/-- A deadline has passed while the state of the statement, which was heard, was passing. -/
def Expires (xs : List (Exchange τ)) (outcome : Except Stop Result) : Prop :=
  TimedOut outcome ∧ handles xs ≠ [] ∧ ∀ handle ∈ handles xs, handle.state.isTerminal = false

/-! ### Conversations -/

/-- **The shape of what is sent.** One submission, questions after the state, and then either chunks
or one cancellation; or nothing at all. -/
def Word (order : Order) (errands : List Errand) : Prop :=
  errands = [] ∨ ∃ (ids links : List String) (cancelled : Option String),
    errands = .submit order :: (ids.map .poll ++ links.map .fetchChunk ++
      cancelled.toList.map .cancel) ∧
    (links = [] ∨ cancelled = none) ∧ links.Nodup

/-- **The shape of what is sent**, by the method and the path of each request. -/
def Lines (lines : List (String × String)) : Prop :=
  lines = [] ∨ ∃ (ids links : List String) (cancelled : Option String),
    lines = ("POST", "/api/2.0/sql/statements") ::
      (ids.map (fun id => ("GET", "/api/2.0/sql/statements/" ++ id)) ++
        links.map (fun link => ("GET", link)) ++
        cancelled.toList.map fun id => ("POST", "/api/2.0/sql/statements/" ++ id ++ "/cancel")) ∧
    (links = [] ∨ cancelled = none) ∧ links.Nodup

/-- **What comes before a request.** A question after the state follows a handle whose state passes
and asks under its identifier; so does a cancellation, for which all handles were such. A chunk is
asked for under the link that was just announced, after the handle of a success. -/
inductive Follows (order : Order) (before : List (Exchange τ)) : Errand → Prop
  | submit (first : before = []) : Follows order before (.submit order)
  | poll {x : Exchange τ} {handle : Handle} (latest : before.getLast? = some x)
      (brought : x.handle? = some handle) (passing : handle.state.isTerminal = false) :
      Follows order before (.poll handle.statementId)
  | cancel {handle : Handle} (latest : (handles before).getLast? = some handle)
      (passing : ∀ earlier ∈ handles before, earlier.state.isTerminal = false) :
      Follows order before (.cancel handle.statementId)
  | fetchChunk {x : Exchange τ} {handle : Handle} {link : String}
      (latest : before.getLast? = some x) (announced : x.announced? = some (.str link))
      (heard : (handles before).getLast? = some handle) (succeeded : handle.state = .succeeded)
      (new : ∀ y ∈ before, y.errand ≠ .fetchChunk link) : Follows order before (.fetchChunk link)

/-- Each request follows those before it. -/
inductive Orderly (order : Order) : List (Exchange τ) → Prop
  | nil : Orderly order []
  | snoc {xs : List (Exchange τ)} {x : Exchange τ} (prior : Orderly order xs)
      (follows : Follows order xs x.errand) : Orderly order (xs ++ [x])

/-- **A conversation**: the requests that were sent, and the outcome they lead to. -/
structure Conversation (order : Order) (xs : List (Exchange τ)) (outcome : Except Stop Result) :
    Prop where
  word : Word order (xs.map Exchange.errand)
  orderly : Orderly order xs
  /-- A result tells how often the state was asked for. -/
  polls : ∀ result, outcome = .ok result → result.polls = xs.countP (·.errand.isPoll)
  /-- A statement is cancelled, and no fault comes of it, exactly if the deadline has passed while
  its state was passing. -/
  cancelled : (∃ x ∈ xs, x.Cancels ∧ ∀ fault, x.answer ≠ .fault fault) ↔ Expires xs outcome
  /-- A fault that comes of a cancellation is told. -/
  raised : ∀ x ∈ xs, x.Cancels → ∀ fault, x.answer = .fault fault → outcome = .error (.fault fault)

theorem Word.lines {order : Order} {errands : List Errand} (h : Word order errands) :
    Lines (errands.map Errand.line) := by
  rcases h with rfl | ⟨ids, links, cancelled, rfl, heither, hnodup⟩
  · exact .inl rfl
  · refine .inr ⟨ids, links, cancelled, ?_, heither, hnodup⟩
    simp [Errand.line, Errand.method, Errand.link, Function.comp_def, statementsPath]

theorem Conversation.lines {order : Order} {xs : List (Exchange τ)}
    {outcome : Except Stop Result} (h : Conversation order xs outcome) :
    Lines (xs.map (·.errand.line)) := by
  have hlines := h.word.lines
  rw [List.map_map] at hlines
  exact hlines

/-- **Where no fault comes of a cancellation**, a statement is cancelled exactly if it expires. -/
theorem Conversation.cancels_iff {order : Order} {xs : List (Exchange τ)}
    {outcome : Except Stop Result} (h : Conversation order xs outcome)
    (hquiet : ∀ x ∈ xs, x.Cancels → ∀ fault, x.answer ≠ .fault fault) :
    (∃ x ∈ xs, x.Cancels) ↔ Expires xs outcome := by
  rw [← h.cancelled]
  constructor
  · rintro ⟨x, hx, hcancels⟩
    exact ⟨x, hx, hcancels, hquiet x hx hcancels⟩
  · rintro ⟨x, hx, hcancels, -⟩
    exact ⟨x, hx, hcancels⟩

/-! ### Handles and links -/

theorem handles_append (xs ys : List (Exchange τ)) :
    handles (xs ++ ys) = handles xs ++ handles ys := List.filterMap_append

theorem handles_singleton {x : Exchange τ} {handle : Handle} (h : x.handle? = some handle) :
    handles [x] = [handle] := by
  rw [handles, List.filterMap_cons_some h, List.filterMap_nil]

theorem handles_singleton_none {x : Exchange τ} (h : x.handle? = none) : handles [x] = [] := by
  rw [handles, List.filterMap_cons_none h, List.filterMap_nil]

theorem Exchange.handle_eq_none_of_fetch {x : Exchange τ} {link : String}
    (h : x.errand = .fetchChunk link) : x.handle? = none := by
  rw [handle?, h]

theorem Exchange.handle_eq_none_of_cancel {x : Exchange τ} {id : String}
    (h : x.errand = .cancel id) : x.handle? = none := by
  rw [handle?, h]

theorem Exchange.response_of_document {x : Exchange τ} {document : Document}
    (h : x.document? = some document) : ∃ response, x.answer = .response response := by
  unfold document? at h
  split at h
  · rename_i response hanswer
    exact ⟨response, hanswer⟩
  · cases h

theorem Exchange.response_of_handle {x : Exchange τ} {handle : Handle}
    (h : x.handle? = some handle) : ∃ response, x.answer = .response response := by
  unfold handle? at h
  split at h
  · obtain ⟨document, hdocument, -⟩ := Option.bind_eq_some_iff.mp h
    exact response_of_document hdocument
  · obtain ⟨document, hdocument, -⟩ := Option.bind_eq_some_iff.mp h
    exact response_of_document hdocument
  · cases h

theorem Exchange.response_of_chunk {x : Exchange τ} {chunk : List Document × Document}
    (h : x.chunk? = some chunk) : ∃ response, x.answer = .response response := by
  unfold chunk? at h
  split at h
  · obtain ⟨document, hdocument, -⟩ := Option.bind_eq_some_iff.mp h
    exact response_of_document hdocument
  · cases h

theorem newLink_eq_some {result : Progress} {link : String} (h : result.newLink? = some link) :
    result.link = .str link ∧ link ∉ result.fetched := by
  unfold Progress.newLink? at h
  split at h
  · rename_i found hfound
    split at h
    · cases h
    · rename_i hnew
      cases h
      exact ⟨hfound, by simpa using hnew⟩
  · cases h

/-- How often the state was asked for. -/
theorem countP_isPoll {order : Order} {xs : List (Exchange τ)} {ids links : List String}
    (h : xs.map Exchange.errand = .submit order :: (ids.map .poll ++ links.map .fetchChunk)) :
    xs.countP (·.errand.isPoll) = ids.length := by
  have hcount : xs.countP (·.errand.isPoll) = (xs.map Exchange.errand).countP Errand.isPoll := by
    rw [List.countP_map]
    rfl
  have hids : (ids.map Errand.poll).countP Errand.isPoll = ids.length := by
    rw [List.countP_map, List.countP_eq_length]
    intro id _
    rfl
  have hchunks : (links.map Errand.fetchChunk).countP Errand.isPoll = 0 := by
    rw [List.countP_map, List.countP_eq_zero]
    intro link _
    exact Bool.false_ne_true
  rw [hcount, h, List.countP_cons_of_neg (by simp [Errand.isPoll]), List.countP_append, hids,
    hchunks, Nat.add_zero]

/-- Where only the state was asked for, no chunk was. -/
theorem errands_of_asked {order : Order} {xs : List (Exchange τ)} {ids : List String}
    (h : xs.map Exchange.errand = .submit order :: ids.map .poll) :
    xs.map Exchange.errand =
      .submit order :: (ids.map .poll ++ ([] : List String).map .fetchChunk) := by
  rw [h, List.map_nil, List.append_nil]

theorem nodup_newLink {result : Progress} {link : String} (hnodup : result.fetched.Nodup)
    (h : result.newLink? = some link) : (result.fetched ++ [link]).Nodup := by
  rw [← List.concat_eq_append]
  exact hnodup.concat (newLink_eq_some h).2

/-! ### What was heard -/

namespace Heard

variable {order : Order} {xs : List (Exchange τ)} {handle : Handle} {polls : Nat}

theorem errands (h : Heard order xs handle polls) :
    ∃ ids : List String, ids.length = polls ∧
      xs.map Exchange.errand = .submit order :: ids.map .poll := by
  induction h with
  | submit errand _ => exact ⟨[], rfl, by rw [List.map_singleton, errand]; rfl⟩
  | @poll xs handle next polls x _ _ errand _ ih =>
    obtain ⟨ids, hlength, hids⟩ := ih
    refine ⟨ids ++ [handle.statementId], by simp [hlength], ?_⟩
    rw [List.map_append, List.map_singleton, hids, errand]
    simp

theorem countP_isPoll (h : Heard order xs handle polls) : xs.countP (·.errand.isPoll) = polls := by
  obtain ⟨ids, hlength, hids⟩ := h.errands
  rw [Warehouse.countP_isPoll (errands_of_asked hids), hlength]

theorem latest (h : Heard order xs handle polls) :
    ∃ x, xs.getLast? = some x ∧ x.handle? = some handle := by
  cases h with
  | submit _ brought => exact ⟨_, rfl, brought⟩
  | poll _ _ _ brought => exact ⟨_, List.getLast?_concat, brought⟩

/-- All handles but the last one told of a passing state. -/
theorem handles_eq (h : Heard order xs handle polls) :
    ∃ earlier, handles xs = earlier ++ [handle] ∧
      ∀ prior ∈ earlier, prior.state.isTerminal = false := by
  induction h with
  | submit _ brought => exact ⟨[], handles_singleton brought, by simp⟩
  | @poll xs handle next polls x _ passing _ brought ih =>
    obtain ⟨earlier, hhandles, hpassing⟩ := ih
    refine ⟨earlier ++ [handle], ?_, ?_⟩
    · rw [handles_append, hhandles, handles_singleton brought]
    · intro prior hprior
      rcases List.mem_append.mp hprior with hprior | hprior
      · exact hpassing prior hprior
      · rw [List.mem_singleton.mp hprior]
        exact passing

theorem passing_all (h : Heard order xs handle polls) (passing : handle.state.isTerminal = false) :
    ∀ prior ∈ handles xs, prior.state.isTerminal = false := by
  obtain ⟨earlier, hhandles, hpassing⟩ := h.handles_eq
  intro prior hprior
  rw [hhandles] at hprior
  rcases List.mem_append.mp hprior with hprior | hprior
  · exact hpassing prior hprior
  · rw [List.mem_singleton.mp hprior]
    exact passing

theorem getLast_handles (h : Heard order xs handle polls) :
    (handles xs).getLast? = some handle := by
  obtain ⟨earlier, hhandles, -⟩ := h.handles_eq
  rw [hhandles, List.getLast?_concat]

theorem orderly (h : Heard order xs handle polls) : Orderly order xs := by
  induction h with
  | @submit x handle errand _ =>
    have hnil : Orderly order ([] : List (Exchange τ)) := .nil
    refine hnil.snoc ?_
    rw [errand]
    exact .submit rfl
  | @poll xs handle next polls x prior passing errand _ ih =>
    obtain ⟨y, hlast, hbrought⟩ := prior.latest
    refine .snoc ih ?_
    rw [errand]
    exact .poll hlast hbrought passing

theorem answered (h : Heard order xs handle polls) :
    ∀ x ∈ xs, ∃ response, x.answer = .response response := by
  induction h with
  | @submit x handle _ brought =>
    intro y hy
    rw [List.mem_singleton.mp hy]
    exact Exchange.response_of_handle brought
  | @poll xs handle next polls x _ _ _ brought ih =>
    intro y hy
    rcases List.mem_append.mp hy with hy | hy
    · exact ih y hy
    · rw [List.mem_singleton.mp hy]
      exact Exchange.response_of_handle brought

end Heard

namespace Pages

variable {order : Order} {xs : List (Exchange τ)} {result : Progress}

theorem errands (h : Pages order xs result) :
    ∃ ids : List String, ids.length = result.polls ∧
      xs.map Exchange.errand =
        .submit order :: (ids.map .poll ++ result.fetched.map .fetchChunk) := by
  induction h with
  | first heard _ =>
    obtain ⟨ids, hlength, hids⟩ := heard.errands
    exact ⟨ids, hlength, by rw [hids]; simp [Handle.progress]⟩
  | next _ _ _ errand _ ih =>
    obtain ⟨ids, hlength, hids⟩ := ih
    refine ⟨ids, hlength, ?_⟩
    rw [List.map_append, List.map_singleton, hids, errand]
    simp [Progress.extend]

theorem countP_isPoll (h : Pages order xs result) :
    xs.countP (·.errand.isPoll) = result.polls := by
  obtain ⟨ids, hlength, hids⟩ := h.errands
  rw [Warehouse.countP_isPoll hids, hlength]

theorem nodup (h : Pages order xs result) : result.fetched.Nodup := by
  induction h with
  | first _ _ => exact List.nodup_nil
  | next _ _ announced _ _ ih => exact nodup_newLink ih announced

theorem latest (h : Pages order xs result) :
    ∃ x, xs.getLast? = some x ∧ x.announced? = some result.link := by
  cases h with
  | first heard brought =>
    obtain ⟨x, hlast, hhandle⟩ := heard.latest
    refine ⟨x, hlast, ?_⟩
    rw [Exchange.announced?, hhandle]
    dsimp only
    rw [brought]
    rfl
  | next _ _ _ errand brought =>
    refine ⟨_, List.getLast?_concat, ?_⟩
    rw [Exchange.announced?, Exchange.handle_eq_none_of_fetch errand, brought]
    rfl

/-- The last handle told of success. -/
theorem succeeded (h : Pages order xs result) :
    ∃ handle, (handles xs).getLast? = some handle ∧ handle.state = .succeeded := by
  induction h with
  | @first xs handle _ _ _ heard brought =>
    exact ⟨handle, heard.getLast_handles, Handle.succeeded_of_page brought⟩
  | next _ _ _ errand _ ih =>
    rw [handles_append, handles_singleton_none (Exchange.handle_eq_none_of_fetch errand),
      List.append_nil]
    exact ih

/-- A chunk is asked for after the pages before it. -/
theorem follows (h : Pages order xs result) {link : String}
    (announced : result.newLink? = some link) : Follows order xs (.fetchChunk link) := by
  obtain ⟨x, hlast, hlink⟩ := h.latest
  obtain ⟨handle, hheard, hsucceeded⟩ := h.succeeded
  obtain ⟨hstr, hnew⟩ := newLink_eq_some announced
  rw [hstr] at hlink
  refine .fetchChunk hlast hlink hheard hsucceeded ?_
  intro y hy herrand
  obtain ⟨ids, -, herrands⟩ := h.errands
  have hmem : Errand.fetchChunk link ∈ xs.map Exchange.errand := by
    rw [← herrand]
    exact List.mem_map_of_mem hy
  rw [herrands] at hmem
  exact hnew (by simpa using hmem)

theorem orderly (h : Pages order xs result) : Orderly order xs := by
  induction h with
  | first heard _ => exact heard.orderly
  | next prior _ announced errand _ ih =>
    refine .snoc ih ?_
    rw [errand]
    exact prior.follows announced

theorem answered (h : Pages order xs result) :
    ∀ x ∈ xs, ∃ response, x.answer = .response response := by
  induction h with
  | first heard _ => exact heard.answered
  | next _ _ _ _ brought ih =>
    intro y hy
    rcases List.mem_append.mp hy with hy | hy
    · exact ih y hy
    · rw [List.mem_singleton.mp hy]
      exact Exchange.response_of_chunk brought

end Pages

/-! ### Conversations, one end after the other -/

theorem sent_append (xs ys : List (Exchange τ)) : sent (xs ++ ys) = sent xs ++ sent ys :=
  List.filter_append ..

theorem sent_singleton (x : Exchange τ) :
    (x.url.isSome ∧ sent [x] = [x]) ∨ (x.url.isSome = false ∧ sent [x] = []) := by
  cases hurl : x.url.isSome with
  | true => exact .inl ⟨rfl, by simp [sent, hurl]⟩
  | false => exact .inr ⟨rfl, by simp [sent, hurl]⟩

section

variable {order : Order} {xs : List (Exchange τ)} {outcome : Except Stop Result}

theorem conversation_nil (hfailed : ∀ result, outcome ≠ .ok result) :
    Conversation order ([] : List (Exchange τ)) outcome where
  word := .inl rfl
  orderly := .nil
  polls result hresult := absurd hresult (hfailed result)
  cancelled := by simp [Expires, handles]
  raised := by simp

/-- Questions and chunks cancel nothing. -/
theorem uncancelled_of_errands {ids links : List String}
    (h : xs.map Exchange.errand = .submit order :: (ids.map .poll ++ links.map .fetchChunk)) :
    ∀ x ∈ xs, ¬ x.Cancels := by
  rintro x hx ⟨id, herrand⟩
  have hmem : Errand.cancel id ∈ xs.map Exchange.errand := by
    rw [← herrand]
    exact List.mem_map_of_mem hx
  rw [h] at hmem
  simp at hmem

/-- A conversation in which nothing is cancelled. -/
theorem conversation_of_uncancelled {ids links : List String}
    (herrands : xs.map Exchange.errand =
      .submit order :: (ids.map .poll ++ links.map .fetchChunk))
    (hlinks : links.Nodup) (horderly : Orderly order xs)
    (hpolls : ∀ result, outcome = .ok result → result.polls = ids.length)
    (hearly : ¬ Expires xs outcome) : Conversation order xs outcome where
  word := .inr ⟨ids, links, none, by simpa using herrands, .inr rfl, hlinks⟩
  orderly := horderly
  polls result hresult := by
    rw [hpolls result hresult, countP_isPoll herrands]
  cancelled := by
    constructor
    · rintro ⟨x, hx, hcancels, -⟩
      exact absurd hcancels (uncancelled_of_errands herrands x hx)
    · exact fun h => absurd h hearly
  raised x hx hcancels := absurd hcancels (uncancelled_of_errands herrands x hx)

theorem conversation_of_asked {ids : List String}
    (herrands : xs.map Exchange.errand = .submit order :: ids.map .poll)
    (horderly : Orderly order xs) (hfailed : ∀ result, outcome ≠ .ok result)
    (hearly : TimedOut outcome → handles xs = [] ∨
      ∃ handle ∈ handles xs, handle.state.isTerminal = true) : Conversation order xs outcome := by
  refine conversation_of_uncancelled (errands_of_asked herrands) List.nodup_nil horderly
    (fun result hresult => absurd hresult (hfailed result)) ?_
  rintro ⟨htimed, hsome, hpassing⟩
  rcases hearly htimed with hnone | ⟨handle, hmem, hfinal⟩
  · exact absurd hnone hsome
  · rw [hpassing handle hmem] at hfinal
    cases hfinal

theorem conversation_of_fetched {ids links : List String} {handle : Handle}
    (herrands : xs.map Exchange.errand =
      .submit order :: (ids.map .poll ++ links.map .fetchChunk))
    (hlinks : links.Nodup) (horderly : Orderly order xs)
    (hlast : (handles xs).getLast? = some handle) (hstate : handle.state = .succeeded)
    (hpolls : ∀ result, outcome = .ok result → result.polls = ids.length) :
    Conversation order xs outcome := by
  refine conversation_of_uncancelled herrands hlinks horderly hpolls ?_
  rintro ⟨-, -, hpassing⟩
  have hfinal := hpassing handle (List.mem_of_getLast? hlast)
  rw [hstate] at hfinal
  cases hfinal

/-- A conversation that ends with a cancellation. -/
theorem conversation_of_cancelled {ids : List String} {handle : Handle} {x : Exchange τ}
    (herrands : xs.map Exchange.errand = .submit order :: ids.map .poll)
    (horderly : Orderly order xs) (hlast : (handles xs).getLast? = some handle)
    (hpassing : ∀ earlier ∈ handles xs, earlier.state.isTerminal = false)
    (herrand : x.errand = .cancel handle.statementId) (hfailed : ∀ result, outcome ≠ .ok result)
    (htimed : TimedOut outcome ↔ ∀ fault, x.answer ≠ .fault fault)
    (hraised : ∀ fault, x.answer = .fault fault → outcome = .error (.fault fault)) :
    Conversation order (xs ++ [x]) outcome := by
  have hnone : ∀ y ∈ xs, ¬ y.Cancels := uncancelled_of_errands (errands_of_asked herrands)
  have hhandles : handles (xs ++ [x]) = handles xs := by
    rw [handles_append, handles_singleton_none (Exchange.handle_eq_none_of_cancel herrand),
      List.append_nil]
  refine ⟨?_, ?_, fun result hresult => absurd hresult (hfailed result), ?_, ?_⟩
  · refine .inr ⟨ids, [], some handle.statementId, ?_, .inl rfl, List.nodup_nil⟩
    rw [List.map_append, List.map_singleton, herrands, herrand]
    simp
  · refine .snoc horderly ?_
    rw [herrand]
    exact .cancel hlast hpassing
  · rw [Expires, hhandles]
    constructor
    · rintro ⟨y, hy, hcancels, hquiet⟩
      rcases List.mem_append.mp hy with hy | hy
      · exact absurd hcancels (hnone y hy)
      · rw [List.mem_singleton.mp hy] at hquiet
        refine ⟨htimed.mpr hquiet, ?_, hpassing⟩
        intro hnil
        rw [hnil] at hlast
        cases hlast
    · rintro ⟨htimedOut, -, -⟩
      exact ⟨x, by simp, ⟨handle.statementId, herrand⟩, htimed.mp htimedOut⟩
  · intro y hy hcancels
    rcases List.mem_append.mp hy with hy | hy
    · exact absurd hcancels (hnone y hy)
    · rw [List.mem_singleton.mp hy]
      exact hraised

end

/-! ### Timeouts -/

theorem timedOut_failure {failure : Failure} :
    TimedOut (.error (.failure failure)) ↔ failure.kind = .timeout := by
  constructor
  · rintro ⟨found, hfound, hkind⟩
    cases hfound
    exact hkind
  · intro hkind
    exact ⟨failure, rfl, hkind⟩

theorem not_timedOut_fault {fault : Fault} : ¬ TimedOut (.error (.fault fault)) := by
  rintro ⟨failure, hfailure, -⟩
  cases hfailure

theorem not_timedOut_unfinished : ¬ TimedOut (.error .unfinished) := by
  rintro ⟨failure, hfailure, -⟩
  cases hfailure

section

variable [Zero τ] [Sub τ] [LT τ] [DecidableLT τ] [Timeline τ]

/-- Of a request only the deadline makes a timeout. -/
theorem Client.pastDeadline_of_timeout {client : Client τ} {deadline : Option τ} {phase : Phase}
    {statement : Option String} {x : Exchange τ} {failure : Failure}
    (h : client.documentOf deadline phase statement x = .error (.failure failure))
    (hkind : failure.kind = .timeout) : failure = .pastDeadline phase := by
  unfold documentOf responseOf at h
  cases hanswer : x.answer with
  | response response =>
    simp only [hanswer] at h
    have haccept : accept phase statement response = .error (.failure failure) := h
    unfold accept at haccept
    split at haccept
    · dsimp only at haccept
      split at haccept
      · cases haccept
      · cases haccept
        simp only [Failure.kind] at hkind
        split at hkind <;> cases hkind
    · split at haccept
      · cases haccept
      · cases haccept
      · cases haccept
        cases hkind
  | broken reason =>
    simp only [hanswer] at h
    cases h
    cases hkind
  | timedOut =>
    simp only [hanswer] at h
    split at h
    · cases h
      rfl
    · cases h
      cases hkind
  | fault fault =>
    simp only [hanswer] at h
    cases h

theorem Client.readHandle_eq_error {known : Option String} {document : Document} {stop : Stop}
    (h : readHandle known document = .error stop) : ∃ what, stop = .failure (.breach what) := by
  unfold readHandle at h
  cases hread : Handle.read document known with
  | ok handle =>
    rw [hread] at h
    cases h
  | error what =>
    rw [hread] at h
    cases h
    exact ⟨what, rfl⟩

/-- Nor does anything else make one of a request that should bring a handle. -/
theorem Client.pastDeadline_of_handle {client : Client τ} {deadline : Option τ} {phase : Phase}
    {statement known : Option String} {x : Exchange τ} {stop : Stop}
    (h : client.documentOf deadline phase statement x >>= readHandle known = .error stop)
    (htimed : TimedOut (.error stop)) : stop = .failure (.pastDeadline phase) := by
  obtain ⟨failure, hstop, hkind⟩ := htimed
  cases hstop
  cases hdocument : client.documentOf deadline phase statement x with
  | error stop =>
    rw [hdocument] at h
    cases h
    rw [pastDeadline_of_timeout hdocument hkind]
  | ok document =>
    rw [hdocument] at h
    obtain ⟨what, hwhat⟩ := readHandle_eq_error h
    cases hwhat
    cases hkind

theorem Execution.pastDeadline_of_polled {e : Execution τ} {id : String} {x : Exchange τ}
    {stop : Stop} (h : e.polled id x = .error stop) (htimed : TimedOut (.error stop)) :
    stop = .failure (.pastDeadline .poll) :=
  Client.pastDeadline_of_handle h htimed

end

/-! ### Conversations of histories -/

/-- What is answered was sent. -/
def Answerable (xs : List (Exchange τ)) : Prop :=
  ∀ x ∈ xs, ∀ response, x.answer = .response response → x.url.isSome

theorem Answerable.left {xs ys : List (Exchange τ)} (h : Answerable (xs ++ ys)) : Answerable xs :=
  fun x hx => h x (List.mem_append_left _ hx)

theorem Answerable.sent_eq {xs : List (Exchange τ)} (h : Answerable xs)
    (hanswered : ∀ x ∈ xs, ∃ response, x.answer = .response response) : sent xs = xs := by
  rw [sent, List.filter_eq_self]
  intro x hx
  obtain ⟨response, hresponse⟩ := hanswered x hx
  exact h x hx response hresponse

theorem Heard.conversation {order : Order} {xs : List (Exchange τ)} {handle : Handle} {polls : Nat}
    {outcome : Except Stop Result} (heard : Heard order xs handle polls) (hsent : Answerable xs)
    (hfailed : ∀ result, outcome ≠ .ok result)
    (hearly : TimedOut outcome → handle.state.isTerminal = true) :
    Conversation order (sent xs) outcome := by
  obtain ⟨ids, -, hids⟩ := heard.errands
  have hmem := List.mem_of_getLast? heard.getLast_handles
  rw [hsent.sent_eq heard.answered]
  exact conversation_of_asked hids heard.orderly hfailed
    fun htimed => .inr ⟨handle, hmem, hearly htimed⟩

theorem Pages.conversation {order : Order} {xs : List (Exchange τ)} {result : Progress}
    {outcome : Except Stop Result} (pages : Pages order xs result) (hsent : Answerable xs)
    (hpolls : ∀ final, outcome = .ok final → final.polls = result.polls) :
    Conversation order (sent xs) outcome := by
  obtain ⟨ids, hlength, hids⟩ := pages.errands
  obtain ⟨handle, hlast, hstate⟩ := pages.succeeded
  rw [hsent.sent_eq pages.answered]
  refine conversation_of_fetched hids pages.nodup pages.orderly hlast hstate ?_
  intro final hfinal
  rw [hpolls final hfinal, hlength]

/-- A question after the state that brought no handle, whether it was sent or not. -/
theorem Heard.asked {order : Order} {xs : List (Exchange τ)} {handle : Handle} {polls : Nat}
    {x : Exchange τ} (heard : Heard order xs handle polls)
    (passing : handle.state.isTerminal = false) (errand : x.errand = .poll handle.statementId)
    (hnone : x.handle? = none) (hsent : Answerable (xs ++ [x])) :
    ∃ ids : List String, (sent (xs ++ [x])).map Exchange.errand = .submit order :: ids.map .poll ∧
      Orderly order (sent (xs ++ [x])) ∧ handles (sent (xs ++ [x])) = handles xs := by
  obtain ⟨ids, -, hids⟩ := heard.errands
  rw [sent_append, hsent.left.sent_eq heard.answered]
  rcases sent_singleton x with ⟨-, hx⟩ | ⟨-, hx⟩
  · rw [hx]
    obtain ⟨y, hlast, hbrought⟩ := heard.latest
    refine ⟨ids ++ [handle.statementId], ?_, ?_, ?_⟩
    · rw [List.map_append, List.map_singleton, hids, errand]
      simp
    · refine .snoc heard.orderly ?_
      rw [errand]
      exact .poll hlast hbrought passing
    · rw [handles_append, handles_singleton_none hnone, List.append_nil]
  · rw [hx, List.append_nil]
    exact ⟨ids, hids, heard.orderly, rfl⟩

/-- A chunk that did not come, whether it was sent for or not. -/
theorem Pages.conversation_unfetched {order : Order} {xs : List (Exchange τ)} {result : Progress}
    {link : String} {x : Exchange τ} {outcome : Except Stop Result} (pages : Pages order xs result)
    (announced : result.newLink? = some link) (errand : x.errand = .fetchChunk link)
    (hfailed : ∀ result, outcome ≠ .ok result) (hsent : Answerable (xs ++ [x])) :
    Conversation order (sent (xs ++ [x])) outcome := by
  obtain ⟨ids, -, hids⟩ := pages.errands
  obtain ⟨handle, hlast, hstate⟩ := pages.succeeded
  have hpolls : ∀ result, outcome = .ok result → result.polls = ids.length :=
    fun result hresult => absurd hresult (hfailed result)
  rw [sent_append, hsent.left.sent_eq pages.answered]
  rcases sent_singleton x with ⟨-, hx⟩ | ⟨-, hx⟩
  · rw [hx]
    have herrands : (xs ++ [x]).map Exchange.errand =
        .submit order :: (ids.map .poll ++ (result.fetched ++ [link]).map .fetchChunk) := by
      rw [List.map_append, List.map_singleton, hids, errand]
      simp
    have horderly : Orderly order (xs ++ [x]) := by
      refine .snoc pages.orderly ?_
      rw [errand]
      exact pages.follows announced
    have hhandles : (handles (xs ++ [x])).getLast? = some handle := by
      rw [handles_append, handles_singleton_none (Exchange.handle_eq_none_of_fetch errand),
        List.append_nil]
      exact hlast
    exact conversation_of_fetched herrands (nodup_newLink pages.nodup announced) horderly hhandles
      hstate hpolls
  · rw [hx, List.append_nil]
    exact conversation_of_fetched hids pages.nodup pages.orderly hlast hstate hpolls

/-- A submission that brought no handle, whether it was sent or not. -/
theorem conversation_of_unsubmitted {order : Order} {x : Exchange τ}
    {outcome : Except Stop Result} (errand : x.errand = .submit order) (hnone : x.handle? = none)
    (hfailed : ∀ result, outcome ≠ .ok result) : Conversation order (sent [x]) outcome := by
  rcases sent_singleton x with ⟨-, hx⟩ | ⟨-, hx⟩
  · rw [hx]
    have hnil : Orderly order ([] : List (Exchange τ)) := .nil
    have hfollows : Follows order ([] : List (Exchange τ)) x.errand := by
      rw [errand]
      exact .submit rfl
    have herrands : [x].map Exchange.errand =
        .submit order :: ([] : List String).map .poll := by
      rw [List.map_singleton, errand]
      rfl
    refine conversation_of_asked herrands (hnil.snoc hfollows) hfailed fun _ => .inl ?_
    exact handles_singleton_none hnone
  · rw [hx]
    exact conversation_nil hfailed

section

variable [Zero τ] [Sub τ] [LT τ] [DecidableLT τ] [Timeline τ]

namespace Execution

variable {e : Execution τ} {xs : List (Exchange τ)}

theorem handle_eq_none_of_polled {x : Exchange τ} {id : String} {stop : Stop}
    (errand : x.errand = .poll id) (h : e.polled id x = .error stop) : x.handle? = none := by
  cases hhandle : x.handle? with
  | none => rfl
  | some handle =>
    rw [(polled_eq_ok_iff errand).mpr hhandle] at h
    cases h

theorem handle_eq_none_of_submitted {x : Exchange τ} {order : Order} {stop : Stop}
    (errand : x.errand = .submit order) (h : e.submitted x = .error stop) : x.handle? = none := by
  cases hhandle : x.handle? with
  | none => rfl
  | some handle =>
    rw [(submitted_eq_ok_iff errand).mpr hhandle] at h
    cases h

/-- What was sent before the deadline passed. -/
theorem Late.asked_sent {handle : Handle} (late : e.Late xs handle) (hsent : Answerable xs) :
    ∃ ids : List String, (sent xs).map Exchange.errand = .submit e.order :: ids.map .poll ∧
      Orderly e.order (sent xs) ∧ (handles (sent xs)).getLast? = some handle ∧
      ∀ earlier ∈ handles (sent xs), earlier.state.isTerminal = false := by
  cases late with
  | waited heard passing =>
    obtain ⟨ids, -, hids⟩ := heard.errands
    rw [hsent.sent_eq heard.answered]
    exact ⟨ids, hids, heard.orderly, heard.getLast_handles, heard.passing_all passing⟩
  | asked heard passing errand late =>
    obtain ⟨ids, hids, horderly, hhandles⟩ :=
      heard.asked passing errand (handle_eq_none_of_polled errand late) hsent
    refine ⟨ids, hids, horderly, ?_, ?_⟩
    · rw [hhandles]
      exact heard.getLast_handles
    · rw [hhandles]
      exact heard.passing_all passing

/-- What an execution that is over sent. -/
theorem Ended.conversation {outcome : Except Stop Result} (ended : e.Ended xs outcome)
    (hsent : Answerable xs)
    (hcancel : ∀ x ∈ xs, x.Cancels → (∀ fault, x.answer ≠ .fault fault) → x.url.isSome) :
    Conversation e.order (sent xs) outcome := by
  cases ended with
  | unsubmitted errand stopped =>
    exact conversation_of_unsubmitted errand (handle_eq_none_of_submitted errand stopped) (by simp)
  | rejected heard failed =>
    refine heard.conversation hsent (by simp) fun _ => ?_
    rw [failed]
    rfl
  | unpaused heard passing interval =>
    exact heard.conversation hsent (by simp) fun htimed => absurd htimed not_timedOut_fault
  | unheard heard passing errand stopped early =>
    obtain ⟨ids, hids, horderly, -⟩ :=
      heard.asked passing errand (handle_eq_none_of_polled errand stopped) hsent
    exact conversation_of_asked hids horderly (by simp)
      fun htimed => absurd (pastDeadline_of_polled stopped htimed) (early .poll)
  | unsuccessful heard final _ _ => exact heard.conversation hsent (by simp) fun _ => final
  | unpaged heard succeeded lacking =>
    refine heard.conversation hsent (by simp) fun _ => ?_
    rw [succeeded]
    rfl
  | unlinked pages truthy lacking => exact pages.conversation hsent (by simp)
  | unfetched pages truthy announced errand stopped =>
    exact pages.conversation_unfetched announced errand (by simp) hsent
  | unchunked pages truthy announced errand brought lacking =>
    exact pages.conversation_unfetched announced errand (by simp) hsent
  | complete pages last =>
    refine pages.conversation hsent ?_
    intro final hfinal
    cases hfinal
    rfl
  | @expired xs handle x late errand quiet =>
    obtain ⟨ids, hids, horderly, hlast, hpassing⟩ := late.asked_sent hsent.left
    have hurl : x.url.isSome := hcancel x (by simp) ⟨_, errand⟩ quiet
    rw [sent_append]
    rcases sent_singleton x with ⟨-, hx⟩ | ⟨hnone, -⟩
    · rw [hx]
      refine conversation_of_cancelled hids horderly hlast hpassing errand (by simp) ?_ ?_
      · exact iff_of_true (timedOut_failure.mpr rfl) quiet
      · exact fun fault hfault => absurd hfault (quiet fault)
    · rw [hurl] at hnone
      cases hnone
  | @uncancelled xs handle x fault late errand raised =>
    obtain ⟨ids, hids, horderly, hlast, hpassing⟩ := late.asked_sent hsent.left
    rw [sent_append]
    rcases sent_singleton x with ⟨-, hx⟩ | ⟨-, hx⟩
    · rw [hx]
      refine conversation_of_cancelled hids horderly hlast hpassing errand (by simp) ?_ ?_
      · exact iff_of_false not_timedOut_fault fun hquiet => hquiet fault raised
      · intro other hother
        rw [raised] at hother
        cases hother
        rfl
    · rw [hx, List.append_nil]
      exact conversation_of_asked hids horderly (by simp)
        fun htimed => absurd htimed not_timedOut_fault

/-- What an execution sent so far. -/
theorem History.conversation {stage : Stage} (h : e.History xs stage) (hsent : Answerable xs)
    (hcancel : ∀ x ∈ xs, x.Cancels → (∀ fault, x.answer ≠ .fault fault) → x.url.isSome) :
    Conversation e.order (sent xs) stage.outcome := by
  cases stage with
  | submitting =>
    obtain rfl : xs = [] := h
    exact conversation_nil (by simp [Stage.outcome])
  | waiting handle polls =>
    exact h.1.conversation hsent (by simp [Stage.outcome])
      fun htimed => absurd htimed not_timedOut_unfinished
  | asking handle polls =>
    exact h.1.conversation hsent (by simp [Stage.outcome])
      fun htimed => absurd htimed not_timedOut_unfinished
  | expiring handle =>
    obtain ⟨ids, hids, horderly, -, -⟩ := Late.asked_sent h hsent
    exact conversation_of_asked hids horderly (by simp [Stage.outcome])
      fun htimed => absurd htimed not_timedOut_unfinished
  | reading result => exact Pages.conversation h hsent (by simp [Stage.outcome])
  | finished outcome => exact Ended.conversation h hsent hcancel

end Execution

end

end Indicator.Warehouse
