import Indicator.Proofs.Warehouse.Classification

/-!
# The rows of a result

A result comes in pages: the result in the handle of a success is the first one, and the chunks are
the others. Each page announces the link to the page after it.

* `Exchange.page?`, `pages`, `fetches`: the pages that exchanges brought, and the requests for
  chunks.
* `Collected`: what the pages come to as they are fetched. `Pages.collected`: so it is for the
  pages of every history.
* `Paged`: **the rows of a result are those of its pages**, along their links.
* `Spoiled`: a chunk that is none, or a link that cannot be followed. `Course.spoiled`: an execution
  that meets one fails at its next step at the latest.
* `Client.execute_rows`: both are so for every execution by a client.
* `Client.execute_blank_page`: a page that says that it has no rows is not asked for its link.
-/

namespace Indicator.Warehouse

open Json (Document Members)

variable {τ : Type}

/-! ### Pages -/

/-- A page with a list of rows. -/
def Listed (page : Members) : Prop := ∃ rows, Document.member page "data_array" = .list rows

/-- A page without rows that says that it has none. -/
def Blank (page : Members) : Prop :=
  Document.member page "data_array" = .null ∧ (Document.member page "row_count").isZero

/-- The rows of a page. -/
def pageRows (page : Members) : List Document :=
  match Document.member page "data_array" with
  | .list rows => rows
  | _ => []

/-- The link to the page after it that a page announces. -/
def pageLink (page : Members) : Document := Document.member page "next_chunk_internal_link"

theorem Blank.not_listed {page : Members} (h : Blank page) : ¬ Listed page := by
  rintro ⟨rows, hrows⟩
  rw [h.1] at hrows
  cases hrows

theorem pageRows_of_list {page : Members} {rows : List Document}
    (h : Document.member page "data_array" = .list rows) : pageRows page = rows := by
  rw [pageRows, h]

theorem pageRows_of_blank {page : Members} (h : Blank page) : pageRows page = [] := by
  rw [pageRows, h.1]

/-- The first page of a result: a list of rows with a link, or no rows at all. -/
theorem Handle.page_eq_some {handle : Handle} {rows : List Document} {link : Document}
    (h : handle.page? = some (rows, link)) :
    ∃ first, handle.result = some first ∧ rows = pageRows first ∧
      ((Listed first ∧ link = pageLink first) ∨ (Blank first ∧ link = .null)) := by
  unfold page? at h
  split at h
  · rename_i first _ hresult
    refine ⟨first, hresult, ?_⟩
    split at h
    · rename_i hdata
      split at h
      · rename_i hzero
        cases h
        exact ⟨(pageRows_of_blank ⟨hdata, hzero⟩).symm, .inr ⟨⟨hdata, hzero⟩, rfl⟩⟩
      · cases h
    · rename_i found hdata
      cases h
      exact ⟨(pageRows_of_list hdata).symm, .inl ⟨⟨_, hdata⟩, rfl⟩⟩
    · cases h
  · cases h

theorem Stage.chunk_eq_some {document : Document} {rows : List Document} {next : Document}
    (h : Stage.chunk? document = some (rows, next)) :
    ∃ chunk, document = .object chunk ∧ Document.member chunk "data_array" = .list rows ∧
      next = pageLink chunk := by
  unfold Stage.chunk? at h
  split at h
  · rename_i chunk
    split at h
    · rename_i found hdata
      cases h
      exact ⟨chunk, rfl, hdata, rfl⟩
    · cases h
  · cases h

/-! ### The pages of exchanges -/

def Errand.isFetch : Errand → Bool
  | fetchChunk _ => true
  | _ => false

/-- The requests for chunks. -/
def fetches (xs : List (Exchange τ)) : List (Exchange τ) := xs.filter (·.errand.isFetch)

theorem mem_fetches {xs : List (Exchange τ)} {x : Exchange τ} {link : String} (hx : x ∈ xs)
    (herrand : x.errand = .fetchChunk link) : x ∈ fetches xs :=
  List.mem_filter.mpr ⟨hx, by rw [herrand]; rfl⟩

/-- The page that an exchange brought: the result in a handle, or a chunk. -/
def Exchange.page? (x : Exchange τ) : Option Members :=
  match x.errand with
  | .fetchChunk _ => x.document?.bind Handle.membersOf?
  | _ => x.handle?.bind Handle.result

/-- The pages that were received, in order. -/
def pages (xs : List (Exchange τ)) : List Members := xs.filterMap Exchange.page?

theorem fetches_append (xs ys : List (Exchange τ)) :
    fetches (xs ++ ys) = fetches xs ++ fetches ys := List.filter_append ..

theorem pages_append (xs ys : List (Exchange τ)) : pages (xs ++ ys) = pages xs ++ pages ys :=
  List.filterMap_append

theorem pages_singleton (x : Exchange τ) : pages [x] = x.page?.toList := by
  unfold pages
  cases hpage : x.page? with
  | none => rw [List.filterMap_cons_none hpage, List.filterMap_nil, Option.toList_none]
  | some page => rw [List.filterMap_cons_some hpage, List.filterMap_nil, Option.toList_some]

theorem pages_split {before after : List (Exchange τ)} {x : Exchange τ} {page : Members}
    (h : x.page? = some page) : pages (before ++ x :: after) =
      pages before ++ page :: pages after := by
  rw [pages, List.filterMap_append, List.filterMap_cons_some h]
  rfl

namespace Exchange

variable {x : Exchange τ}

theorem page_of_handle {handle : Handle} (h : x.handle? = some handle) :
    x.page? = handle.result := by
  rcases (shape_of_handle h).1 with ⟨order, herrand⟩ | ⟨id, herrand⟩
  · rw [page?, herrand]
    simp [h]
  · rw [page?, herrand]
    simp [h]

/-- A chunk is a page with rows. -/
theorem page_of_chunk {link : String} {rows : List Document} {next : Document}
    (herrand : x.errand = .fetchChunk link) (h : x.chunk? = some (rows, next)) :
    ∃ chunk, x.page? = some chunk ∧ Document.member chunk "data_array" = .list rows ∧
      next = pageLink chunk := by
  rw [chunk?, herrand] at h
  obtain ⟨document, hdocument, hchunk⟩ := Option.bind_eq_some_iff.mp h
  obtain ⟨chunk, rfl, hdata, hnext⟩ := Stage.chunk_eq_some hchunk
  refine ⟨chunk, ?_, hdata, hnext⟩
  rw [page?, herrand]
  dsimp only
  rw [hdocument]
  rfl

end Exchange

theorem Handle.result_eq_none {answer : Document} {known : Option String} {handle : Handle}
    (h : Handle.read answer known = .ok handle) (hstate : handle.state ≠ .succeeded) :
    handle.result = none := by
  unfold read at h
  split at h
  · rename_i body
    split at h
    · cases h
    · rename_i id hid
      obtain ⟨status, -, h⟩ := bind_eq_ok.mp h
      dsimp only at h
      split at h
      · cases h
      · rename_i state hname
        obtain ⟨error, -, h⟩ := bind_eq_ok.mp h
        obtain ⟨result, hresult, h⟩ := bind_eq_ok.mp h
        cases h
        unfold resultOf at hresult
        split at hresult
        · exact absurd rfl hstate
        · cases hresult
          rfl
  · cases h

theorem Exchange.result_eq_none {x : Exchange τ} {handle : Handle} (h : x.handle? = some handle)
    (hstate : handle.state ≠ .succeeded) : handle.result = none := by
  unfold handle? at h
  split at h
  · obtain ⟨document, -, hread⟩ := Option.bind_eq_some_iff.mp h
    exact Handle.result_eq_none (toOption_eq_some.mp hread) hstate
  · obtain ⟨document, -, hread⟩ := Option.bind_eq_some_iff.mp h
    exact Handle.result_eq_none (toOption_eq_some.mp hread) hstate
  · cases h

theorem State.ne_succeeded_of_passing {state : State} (h : state.isTerminal = false) :
    state ≠ .succeeded := by
  rintro rfl
  cases h

/-! ### Pages of histories -/

namespace Heard

variable {order : Order} {xs : List (Exchange τ)} {handle : Handle} {polls : Nat}

theorem fetches_eq_nil (h : Heard order xs handle polls) : fetches xs = [] := by
  induction h with
  | submit errand _ => simp [fetches, errand, Errand.isFetch]
  | poll _ _ errand _ ih =>
    rw [fetches_append, ih]
    simp [fetches, errand, Errand.isFetch]

/-- Only the last handle can bring a page. -/
theorem pages_eq (h : Heard order xs handle polls) : pages xs = handle.result.toList := by
  induction h with
  | submit _ brought => rw [pages_singleton, Exchange.page_of_handle brought]
  | @poll xs handle next polls x prior passing _ brought ih =>
    obtain ⟨y, -, hlast⟩ := prior.latest
    have hnone := Exchange.result_eq_none hlast (State.ne_succeeded_of_passing passing)
    rw [pages_append, ih, hnone, pages_singleton, Exchange.page_of_handle brought,
      Option.toList_none, List.nil_append]

theorem pages_eq_nil (h : Heard order xs handle polls) (passing : handle.state.isTerminal = false) :
    pages xs = [] := by
  obtain ⟨y, -, hlast⟩ := h.latest
  rw [h.pages_eq, Exchange.result_eq_none hlast (State.ne_succeeded_of_passing passing),
    Option.toList_none]

end Heard

/-- **What the pages come to** as they are fetched: the rows of all of them, in order, and the links
that they announce, of which all but the last were followed. A blank page counts as the only one. -/
structure Collected (xs : List (Exchange τ)) (result : Progress) (handle : Handle) (first : Members)
    (chunks : List Members) : Prop where
  heard : (handles xs).getLast? = some handle
  succeeded : handle.state = .succeeded
  brought : handle.result = some first
  seen : pages xs = first :: chunks
  fetched : (fetches xs).map Exchange.page? = chunks.map some
  listed : ∀ chunk ∈ chunks, Listed chunk
  asked : (fetches xs).map Exchange.errand = result.fetched.map .fetchChunk
  linked : ∀ link ∈ result.fetched, link ≠ ""
  total : result.rows = (first :: chunks).flatMap pageRows
  announced : (Listed first ∧
      (first :: chunks).map pageLink = result.fetched.map .str ++ [result.link]) ∨
    (Blank first ∧ chunks = [] ∧ result.fetched = [] ∧ result.link = .null)

theorem Heard.collected {order : Order} {xs : List (Exchange τ)} {handle : Handle} {polls : Nat}
    {rows : List Document} {link : Document} (heard : Heard order xs handle polls)
    (brought : handle.page? = some (rows, link)) :
    ∃ first, Collected xs (handle.progress polls rows link) handle first [] := by
  obtain ⟨first, hresult, hrows, hlink⟩ := Handle.page_eq_some brought
  refine ⟨first, heard.getLast_handles, Handle.succeeded_of_page brought, hresult, ?_, ?_, by simp,
    ?_, by simp [Handle.progress], ?_, ?_⟩
  · rw [heard.pages_eq, hresult, Option.toList_some]
  · rw [heard.fetches_eq_nil]
    rfl
  · rw [heard.fetches_eq_nil]
    rfl
  · simpa [Handle.progress] using hrows
  · rcases hlink with ⟨hlisted, rfl⟩ | ⟨hblank, rfl⟩
    · exact .inl ⟨hlisted, rfl⟩
    · exact .inr ⟨hblank, rfl, rfl, rfl⟩

/-- One more chunk, under the link that was announced last. -/
theorem Collected.next {xs : List (Exchange τ)} {result : Progress} {handle : Handle}
    {first : Members} {chunks : List Members} {link : String} {x : Exchange τ}
    {rows : List Document} {next : Document} (h : Collected xs result handle first chunks)
    (truthy : result.link.truthy) (announced : result.newLink? = some link)
    (errand : x.errand = .fetchChunk link) (brought : x.chunk? = some (rows, next)) :
    ∃ chunk, Collected (xs ++ [x]) (result.extend link rows next) handle first
      (chunks ++ [chunk]) := by
  obtain ⟨chunk, hpage, hdata, rfl⟩ := Exchange.page_of_chunk errand brought
  have hlink := (newLink_eq_some announced).1
  have hfetches : fetches [x] = [x] := by simp [fetches, errand, Errand.isFetch]
  refine ⟨chunk, ?_, h.succeeded, h.brought, ?_, ?_, ?_, ?_, ?_, ?_, ?_⟩
  · rw [handles_append, handles_singleton_none (Exchange.handle_eq_none_of_fetch errand),
      List.append_nil]
    exact h.heard
  · rw [pages_append, h.seen, pages_singleton, hpage, Option.toList_some, List.cons_append]
  · rw [fetches_append, hfetches, List.map_append, h.fetched, List.map_append]
    simp [hpage]
  · simp only [List.forall_mem_append, List.forall_mem_singleton]
    exact ⟨h.listed, rows, hdata⟩
  · rw [fetches_append, hfetches, List.map_append, h.asked]
    simp [Progress.extend, errand]
  · have hnonempty : link ≠ "" := by
      rintro rfl
      rw [hlink] at truthy
      cases truthy
    simp only [Progress.extend, List.forall_mem_append, List.forall_mem_singleton]
    exact ⟨h.linked, hnonempty⟩
  · have hrows : result.rows ++ rows = (first :: chunks).flatMap pageRows ++ pageRows chunk := by
      rw [h.total, pageRows_of_list hdata]
    rw [← List.cons_append, List.flatMap_append]
    simpa [Progress.extend] using hrows
  · rcases h.announced with ⟨hlisted, hlinks⟩ | ⟨-, -, -, hnull⟩
    · refine .inl ⟨hlisted, ?_⟩
      rw [← List.cons_append, List.map_append, hlinks, hlink]
      simp [Progress.extend]
    · rw [hnull] at hlink
      cases hlink

/-- **The pages of a history are collected.** -/
theorem Pages.collected {order : Order} {xs : List (Exchange τ)} {result : Progress}
    (h : Pages order xs result) : ∃ handle first chunks,
      Collected xs result handle first chunks := by
  induction h with
  | first heard brought =>
    obtain ⟨first, hcollected⟩ := heard.collected brought
    exact ⟨_, first, [], hcollected⟩
  | next _ truthy announced errand brought ih =>
    obtain ⟨handle, first, chunks, hcollected⟩ := ih
    obtain ⟨chunk, hnext⟩ := hcollected.next truthy announced errand brought
    exact ⟨handle, first, chunks ++ [chunk], hnext⟩

/-! ### Results -/

/-- **The rows of a result in pages.** They are the rows of the first page and of all chunks, in the
order in which these were fetched. Each chunk was asked for under the link that the page before it
announces, no link is empty or comes twice, and the last page announces none. -/
structure Paged (xs : List (Exchange τ)) (first : Members) (rows : List Document)
    (chunks : List Members) (links : List String) (last : Document) : Prop where
  asked : (fetches xs).map Exchange.errand = links.map .fetchChunk
  brought : (fetches xs).map Exchange.page? = chunks.map some
  listed : ∀ chunk ∈ chunks, Listed chunk
  total : rows = (first :: chunks).flatMap pageRows
  announced : (first :: chunks).map pageLink = links.map .str ++ [last]
  ended : last.truthy = false
  nonempty : ∀ link ∈ links, link ≠ ""
  distinct : links.Nodup

theorem Pages.paged {order : Order} {xs : List (Exchange τ)} {result : Progress}
    (h : Pages order xs result) (hlast : ¬ result.link.truthy) :
    ∃ handle first, (handles xs).getLast? = some handle ∧ handle.state = .succeeded ∧
      handle.result = some first ∧
      (Listed first → ∃ chunks, Paged xs first result.rows chunks result.fetched result.link) ∧
      (¬ Listed first → Blank first ∧ result.rows = [] ∧ fetches xs = []) := by
  obtain ⟨handle, first, chunks, hcollected⟩ := h.collected
  refine ⟨handle, first, hcollected.heard, hcollected.succeeded, hcollected.brought, ?_, ?_⟩
  · intro hlisted
    rcases hcollected.announced with ⟨-, hlinks⟩ | ⟨hblank, -⟩
    · exact ⟨chunks, hcollected.asked, hcollected.fetched, hcollected.listed, hcollected.total,
        hlinks, by simpa using hlast, hcollected.linked, h.nodup⟩
    · exact absurd hlisted hblank.not_listed
  · intro hunlisted
    rcases hcollected.announced with ⟨hlisted, -⟩ | ⟨hblank, hchunks, -, -⟩
    · exact absurd hlisted hunlisted
    · have hrows := hcollected.total
      have hnone := hcollected.fetched
      rw [hchunks, List.flatMap_cons, List.flatMap_nil, pageRows_of_blank hblank,
        List.append_nil] at hrows
      rw [hchunks, List.map_nil, List.map_eq_nil_iff] at hnone
      exact ⟨hblank, hrows, hnone⟩

/-! ### Spoiled results -/

/-- **What spoils a result**: a chunk that is refused or that is none, or a link that is no text or
comes again. -/
inductive Spoiled (xs : List (Exchange τ)) : Prop
  | chunk {x : Exchange τ} {link : String} {response : Response} (made : x ∈ xs)
      (errand : x.errand = .fetchChunk link) (answer : x.answer = .response response)
      (bad : 400 ≤ response.status ∨ (∃ refusal, response.body.document = .error refusal) ∨
        ∃ document, response.body.document = .ok document ∧ ¬ ChunkShape document)
  | link {before after : List (Exchange τ)} {x : Exchange τ} {page : Members}
      (made : xs = before ++ x :: after) (brought : x.page? = some page) (written : ¬ Blank page)
      (truthy : (pageLink page).truthy)
      (bad : (∀ text, pageLink page ≠ .str text) ∨
        ∃ earlier ∈ pages before, pageLink earlier = pageLink page)

theorem not_spoiled_nil : ¬ Spoiled ([] : List (Exchange τ)) := by
  intro hspoiled
  cases hspoiled with
  | chunk made => cases made
  | link made => simp at made

/-- A page that came as a chunk came with an answer of its shape. -/
theorem Exchange.chunkShape_of_page {x : Exchange τ} {link : String} {response : Response}
    {chunk : Members} (herrand : x.errand = .fetchChunk link) (hpage : x.page? = some chunk)
    (hlisted : Listed chunk) (hanswer : x.answer = .response response) :
    response.status < 400 ∧ ∃ document, response.body.document = .ok document ∧
      ChunkShape document := by
  rw [page?, herrand] at hpage
  obtain ⟨document, hdocument, hmembers⟩ := Option.bind_eq_some_iff.mp hpage
  obtain ⟨found, hfound, hstatus, hbody⟩ := accepted_of_document hdocument
  rw [hanswer] at hfound
  cases hfound
  obtain ⟨rows, hrows⟩ := hlisted
  refine ⟨hstatus, document, hbody, chunk, rows, ?_, hrows⟩
  cases document <;> cases hmembers
  rfl

namespace Collected

variable {xs : List (Exchange τ)} {result : Progress} {handle : Handle} {first : Members}
  {chunks : List Members}

theorem chunkShape (h : Collected xs result handle first chunks) {x : Exchange τ} {link : String}
    {response : Response} (hx : x ∈ xs) (herrand : x.errand = .fetchChunk link)
    (hanswer : x.answer = .response response) :
    response.status < 400 ∧ ∃ document, response.body.document = .ok document ∧
      ChunkShape document := by
  have hpage : x.page? ∈ chunks.map some := by
    rw [← h.fetched]
    exact List.mem_map_of_mem (mem_fetches hx herrand)
  obtain ⟨chunk, hchunk, hbrought⟩ := List.mem_map.mp hpage
  exact Exchange.chunkShape_of_page herrand hbrought.symm (h.listed chunk hchunk) hanswer

/-- The link on a page is the one to be followed next, or a new one that was followed. -/
theorem link_cases (h : Collected xs result handle first chunks) (hnodup : result.fetched.Nodup)
    {before after : List (Exchange τ)} {x : Exchange τ} {page : Members}
    (hmade : xs = before ++ x :: after) (hpage : x.page? = some page) (hwritten : ¬ Blank page) :
    (pageLink page = result.link ∧
      (pages before).map pageLink = result.fetched.map .str) ∨
    ∃ text, pageLink page = .str text ∧ ∀ earlier ∈ pages before, pageLink earlier ≠ .str text := by
  have hpages : pages before ++ page :: pages after = first :: chunks := by
    rw [← pages_split hpage, ← hmade, h.seen]
  rcases h.announced with ⟨-, hlinks⟩ | ⟨hblank, hchunks, -, -⟩
  · rw [← hpages, List.map_append, List.map_cons] at hlinks
    rcases List.eq_nil_or_concat (pages after) with hlast | ⟨others, last, hothers⟩
    · rw [hlast, List.map_nil] at hlinks
      obtain ⟨hbefore, hlink⟩ := List.append_inj' hlinks rfl
      exact .inl ⟨List.singleton_inj.mp hlink, hbefore⟩
    · rw [hothers, List.concat_eq_append, List.map_append, List.map_singleton,
        ← List.cons_append, ← List.append_assoc] at hlinks
      obtain ⟨hfetched, -⟩ := List.append_inj' hlinks rfl
      have hmem : pageLink page ∈ result.fetched.map Document.str := by
        rw [← hfetched]
        simp
      obtain ⟨text, -, htext⟩ := List.mem_map.mp hmem
      refine .inr ⟨text, htext.symm, ?_⟩
      have hdistinct : (result.fetched.map Document.str).Nodup :=
        hnodup.map fun _ _ heq => Document.str.inj heq
      rw [← hfetched, List.nodup_middle, List.nodup_cons] at hdistinct
      intro earlier hearlier heq
      refine hdistinct.1 (List.mem_append_left _ ?_)
      rw [← htext, ← heq]
      exact List.mem_map_of_mem hearlier
  · rw [hchunks] at hpages
    have honly : page ∈ [first] := by
      rw [← hpages]
      simp
    rw [List.mem_singleton.mp honly] at hwritten
    exact absurd hblank hwritten

end Collected

/-- As far as the pages have come, only their last link can spoil them. -/
theorem Pages.spoiled {order : Order} {xs : List (Exchange τ)} {result : Progress}
    (h : Pages order xs result) (hspoiled : Spoiled xs) :
    result.link.truthy ∧ result.newLink? = none := by
  obtain ⟨handle, first, chunks, hcollected⟩ := h.collected
  cases hspoiled with
  | chunk made errand answer bad =>
    obtain ⟨hstatus, document, hdocument, hshape⟩ := hcollected.chunkShape made errand answer
    rcases bad with hrefused | ⟨refusal, hrefusal⟩ | ⟨found, hfound, hbad⟩
    · omega
    · rw [hdocument] at hrefusal
      cases hrefusal
    · rw [hdocument] at hfound
      cases hfound
      exact absurd hshape hbad
  | link made brought written truthy bad =>
    rcases hcollected.link_cases h.nodup made brought written with ⟨hlast, hbefore⟩ |
      ⟨text, htext, hnew⟩
    · rw [hlast] at truthy bad
      refine ⟨truthy, ?_⟩
      unfold Progress.newLink?
      split
      · rename_i text htext
        rcases bad with hbad | ⟨earlier, hearlier, hsame⟩
        · exact absurd htext (hbad text)
        · have hmem : Document.str text ∈ result.fetched.map Document.str := by
            rw [← hbefore, ← htext, ← hsame]
            exact List.mem_map_of_mem hearlier
          obtain ⟨other, hother, heq⟩ := List.mem_map.mp hmem
          cases heq
          exact if_pos (List.contains_iff_mem.mpr hother)
      · rfl
    · rcases bad with hbad | ⟨earlier, hearlier, hsame⟩
      · exact absurd htext (hbad text)
      · exact absurd (hsame.trans htext) (hnew earlier hearlier)

/-- Before a result is read nothing can spoil it. -/
theorem Heard.not_spoiled {order : Order} {xs : List (Exchange τ)} {handle : Handle} {polls : Nat}
    (h : Heard order xs handle polls) (passing : handle.state.isTerminal = false) :
    ¬ Spoiled xs := by
  intro hspoiled
  cases hspoiled with
  | chunk made errand _ _ =>
    have hfetch := mem_fetches made errand
    rw [h.fetches_eq_nil] at hfetch
    cases hfetch
  | @link before after x page made brought _ _ _ =>
    have hpages := h.pages_eq_nil passing
    rw [made, pages_split brought] at hpages
    simp at hpages

section

variable [Zero τ] [Sub τ] [LT τ] [DecidableLT τ] [Timeline τ]

/-- An execution that is over has not run out of steps. -/
theorem Execution.Ended.ne_unfinished {e : Execution τ} {xs : List (Exchange τ)} {stop : Stop}
    (h : e.Ended xs (.error stop)) : stop ≠ .unfinished := by
  have hopen : ∀ before x, ¬ e.EndsIn before x (.error .unfinished) := by
    rintro before x ⟨v, hv, -⟩
    cases hv
  rintro rfl
  cases h with
  | unsubmitted errand stopped => exact hopen [] _ (endsIn_of_submitted errand stopped)
  | unheard _ _ errand stopped _ => exact hopen [] _ (endsIn_of_polled errand stopped)
  | unfetched _ _ _ _ stopped => exact hopen [] _ (endsIn_of_documentOf stopped)

variable [Add τ] [LE τ] [DecidableLE τ]

/-- **An execution that meets what spoils a result fails** at its next step at the latest. -/
theorem Course.spoiled {e : Execution τ} {start s : Session τ} {xs : List (Exchange τ)}
    {stage : Stage} (h : Course e start xs stage s) (hspoiled : Spoiled xs) :
    ∃ stop, (e.step (stage, s)).1 = .finished (.error stop) ∧ stop ≠ .unfinished := by
  have hhistory := h.history
  cases stage with
  | submitting =>
    rw [show xs = [] from hhistory] at hspoiled
    exact absurd hspoiled not_spoiled_nil
  | waiting handle polls => exact absurd hspoiled (hhistory.1.not_spoiled hhistory.2)
  | asking handle polls => exact absurd hspoiled (hhistory.1.not_spoiled hhistory.2)
  | expiring handle =>
    simp only [Execution.step]
    split
    · exact ⟨_, rfl, by simp⟩
    · exact ⟨_, rfl, by simp⟩
  | reading result =>
    obtain ⟨htruthy, hlink⟩ := Pages.spoiled hhistory hspoiled
    simp only [Execution.step, if_pos htruthy, hlink]
    exact ⟨_, rfl, by simp⟩
  | finished outcome =>
    have hended : e.Ended xs outcome := hhistory
    cases outcome with
    | ok result =>
      cases hended with
      | complete pages last => exact absurd (pages.spoiled hspoiled).1 last
    | error stop => exact ⟨stop, rfl, hended.ne_unfinished⟩

/-! ### Executions -/

namespace Client

/-- **A result has the rows of its pages, and what spoils it is followed by a failure only.** -/
theorem execute_rows (client : Client τ) (job : Job τ) (s : Session τ) (patience : Nat) :
    ∃ xs, (client.execute patience job s).2.exchanges = s.exchanges ++ xs ∧
      (∀ result, (client.execute patience job s).1 = .ok result →
        ∃ handle first, (handles xs).getLast? = some handle ∧ handle.state = .succeeded ∧
          handle.result = some first ∧
          (Listed first → ∃ chunks links last, Paged xs first result.rows chunks links last) ∧
          (¬ Listed first → Blank first ∧ result.rows = [] ∧ fetches xs = [])) ∧
      (Spoiled xs → ∃ stop, stop ≠ .unfinished ∧
        ∀ more, patience < more → (client.execute more job s).1 = .error stop) := by
  rcases execute_course client job s patience with ⟨failure, -, heq⟩ | ⟨fault, -, -, heq⟩ |
    ⟨connection, -, -, -, hconf, hconn, -, -⟩
  · rw [heq]
    exact ⟨[], by simp, by simp, fun hspoiled => absurd hspoiled not_spoiled_nil⟩
  · rw [heq]
    exact ⟨[], by simp, by simp, fun hspoiled => absurd hspoiled not_spoiled_nil⟩
  · obtain ⟨xs, hcourse⟩ := (Course.begin (e := client.execution connection job s)).run patience
    rw [List.nil_append] at hcourse
    refine ⟨xs, ?_, ?_, ?_⟩
    · rw [execute_connected hconf hconn]
      exact hcourse.exchanges_eq
    · intro result hresult
      rw [execute_connected hconf hconn] at hresult
      have hended := hcourse.history
      rw [Stage.eq_finished hresult (by simp)] at hended
      cases hended with
      | complete pages last =>
        obtain ⟨handle, first, hheard, hstate, hfirst, hlisted, hblank⟩ := pages.paged last
        refine ⟨handle, first, hheard, hstate, hfirst, fun hrows => ?_, hblank⟩
        obtain ⟨chunks, hpaged⟩ := hlisted hrows
        exact ⟨chunks, _, _, hpaged⟩
    · intro hspoiled
      obtain ⟨stop, hstep, hstop⟩ := hcourse.spoiled hspoiled
      refine ⟨stop, hstop, fun more hmore => ?_⟩
      rw [← Execution.run_succ_last] at hstep
      rw [execute_connected hconf hconn, Execution.run_of_le hmore hstep, hstep]
      rfl

end Client

end

/-! ### Results in pages -/

/-- A warehouse whose result comes in two pages, each with a row. -/
def pagedSession : Session Rat :=
  exactSession [
    exactResult [("data_array", .list [.list [.str "1"]]),
      ("next_chunk_internal_link", .str "/chunks/1")],
    exactDocument (.object [("data_array", .list [.list [.str "2"]])])]

/-- A warehouse whose result says that it has no rows, but announces a chunk under a number. -/
def blankSession : Session Rat :=
  exactSession [exactResult [("row_count", .int 0), ("next_chunk_internal_link", .int 42)]]

namespace Client

/-- The result in two pages has the rows of both. -/
theorem execute_rows_paged :
    ∃ xs result first chunks links last,
      (exactClient.execute 4 exactJob pagedSession).2.exchanges = xs ∧
      (exactClient.execute 4 exactJob pagedSession).1 = .ok result ∧ result.rows.length = 2 ∧
      Listed first ∧ Paged xs first result.rows chunks links last := by
  obtain ⟨xs, hmade, hrows, -⟩ := execute_rows exactClient exactJob pagedSession 4
  have hcount : (exactClient.execute 4 exactJob pagedSession).1.toOption.map (·.rows.length) =
      some 2 := by
    decide +kernel
  obtain ⟨result, hresult, hlength⟩ := Option.map_eq_some_iff.mp hcount
  have hdone := toOption_eq_some.mp hresult
  obtain ⟨handle, first, -, -, -, hpaged, hblank⟩ := hrows result hdone
  have hlisted : Listed first := by
    by_contra hnot
    rw [(hblank hnot).2.1] at hlength
    cases hlength
  obtain ⟨chunks, links, last, hpages⟩ := hpaged hlisted
  exact ⟨xs, result, first, chunks, links, last, hmade, hdone, hlength, hlisted, hpages⟩

/-- **A page that says that it has no rows is not asked for its link**, though this is none that
could be followed. -/
theorem execute_blank_page :
    ∃ x page result, (exactClient.execute 2 exactJob blankSession).2.exchanges = [x] ∧
      x.page? = some page ∧ (pageLink page).truthy ∧ (∀ text, pageLink page ≠ .str text) ∧
      (exactClient.execute 2 exactJob blankSession).1 = .ok result ∧ result.rows = [] := by
  obtain ⟨hpages, hrows⟩ : ((exactClient.execute 2 exactJob blankSession).2.exchanges.map fun x =>
        x.page?.map fun page => match pageLink page with | .int number => number | _ => 0) =
        [some (42 : Int)] ∧
      ((exactClient.execute 2 exactJob blankSession).1.toOption.map fun result =>
        result.rows.isEmpty) = some true := by
    decide +kernel
  obtain ⟨x, hmade, hpage⟩ := List.map_eq_singleton_iff.mp hpages
  obtain ⟨page, hbrought, hnumber⟩ := Option.map_eq_some_iff.mp hpage
  obtain ⟨result, hresult, hempty⟩ := Option.map_eq_some_iff.mp hrows
  have hlink : pageLink page = .int 42 := by
    split at hnumber
    · rename_i number hlink
      rw [hlink, hnumber]
    · cases hnumber
  refine ⟨x, page, result, hmade, hbrought, ?_, ?_, toOption_eq_some.mp hresult,
    List.isEmpty_iff.mp hempty⟩
  · rw [hlink]
    rfl
  · rw [hlink]
    intro text htext
    cases htext

end Client

end Indicator.Warehouse
