import Indicator.Proofs.Warehouse.Rows

/-!
# Complete results

A result is complete if each link that its pages announce was followed: what comes after a page with
a link is the chunk under that link, and the page that was read last has none. The one page that is
not asked for its link is one that says that it has no rows.

* `lastPage?`: the page that was read last, which is the last chunk if any was fetched.
* `Pages.followed`: each link on the pages of a history was followed, or is the next to be followed.
* `Client.execute_complete`: **every result is complete**, unless its page is not asked.
* `Client.execute_unasked`: such a page may announce a chunk, which is then missing.
-/

namespace Indicator.Warehouse

open Json (Document Members)

variable {τ : Type}

/-! ### The page that was read last -/

/-- The page that was read last: the last chunk, or else the result in the last handle. -/
def lastPage? (xs : List (Exchange τ)) : Option Members :=
  match (fetches xs).getLast? with
  | some x => x.page?
  | none => (handles xs).getLast?.bind Handle.result

theorem Collected.lastPage_eq {xs : List (Exchange τ)} {result : Progress} {handle : Handle}
    {first : Members} {chunks : List Members} (h : Collected xs result handle first chunks) :
    lastPage? xs = (first :: chunks).getLast? := by
  have hlast : (fetches xs).getLast?.map Exchange.page? = chunks.getLast?.map some := by
    rw [← List.getLast?_map, ← List.getLast?_map, h.fetched]
  rw [List.getLast?_cons, lastPage?]
  cases hfetches : (fetches xs).getLast? with
  | none =>
    rw [hfetches, Option.map_none, eq_comm, Option.map_eq_none_iff] at hlast
    rw [hlast, h.heard]
    exact h.brought
  | some x =>
    rw [hfetches, Option.map_some, eq_comm, Option.map_eq_some_iff] at hlast
    obtain ⟨chunk, hchunk, hpage⟩ := hlast
    rw [hchunk]
    exact hpage.symm

/-! ### Links that are followed -/

/-- **A link is followed** by exchanges that start with a request for the chunk under it, which is
received. -/
inductive Followed (link : Document) : List (Exchange τ) → Prop
  | chunk {text : String} {x : Exchange τ} {after : List (Exchange τ)} {chunk : Members}
      (written : link = .str text) (errand : x.errand = .fetchChunk text)
      (brought : x.page? = some chunk) (listed : Listed chunk) : Followed link (x :: after)

theorem Followed.append {link : Document} {after : List (Exchange τ)} (h : Followed link after)
    (more : List (Exchange τ)) : Followed link (after ++ more) := by
  cases h with
  | chunk written errand brought listed => exact .chunk written errand brought listed

/-- **A page that is not asked for its link.** It says that it has no rows, and it is the only page
of a result without any. -/
structure Unasked (xs : List (Exchange τ)) (page : Members) (rows : List Document) : Prop where
  blank : Blank page
  only : pages xs = [page]
  unfetched : fetches xs = []
  empty : rows = []

theorem Heard.after_page {order : Order} {xs : List (Exchange τ)} {handle : Handle} {polls : Nat}
    (h : Heard order xs handle polls) {before after : List (Exchange τ)} {x : Exchange τ}
    {page : Members} (hmade : xs = before ++ x :: after) (hpage : x.page? = some page) :
    after = [] := by
  cases h with
  | submit _ _ =>
    rw [List.singleton_eq_append_iff] at hmade
    rcases hmade with ⟨-, hrest⟩ | ⟨-, hrest⟩
    · exact (List.cons.inj hrest).2
    · cases hrest
  | @poll earlier prior _ _ y heard passing _ _ =>
    rcases List.eq_nil_or_concat after with hnil | ⟨others, last, rfl⟩
    · exact hnil
    · rw [List.concat_eq_append, ← List.cons_append, ← List.append_assoc] at hmade
      have hnone := heard.pages_eq_nil passing
      rw [(List.append_inj' hmade rfl).1, pages_split hpage] at hnone
      simp at hnone

theorem Collected.unasked {xs : List (Exchange τ)} {result : Progress} {handle : Handle}
    {first : Members} {chunks : List Members} (h : Collected xs result handle first chunks)
    (hblank : Blank first) : Unasked xs first result.rows := by
  rcases h.announced with ⟨hlisted, -⟩ | ⟨-, hchunks, -, -⟩
  · exact absurd hlisted hblank.not_listed
  · have hfetched := h.fetched
    have hrows := h.total
    have hseen := h.seen
    rw [hchunks] at hfetched hrows hseen
    rw [List.map_nil, List.map_eq_nil_iff] at hfetched
    rw [List.flatMap_singleton, pageRows_of_blank hblank] at hrows
    exact ⟨hblank, hseen, hfetched, hrows⟩

/-- A link that may be followed is on a page that is asked for it. -/
theorem Pages.not_unasked {order : Order} {xs : List (Exchange τ)} {result : Progress}
    (h : Pages order xs result) (truthy : result.link.truthy) {page : Members} :
    ¬ Unasked xs page result.rows := by
  rintro ⟨hblank, honly, -, -⟩
  obtain ⟨handle, first, chunks, hcollected⟩ := h.collected
  rw [hcollected.seen] at honly
  obtain ⟨rfl, -⟩ := List.cons.inj honly
  rcases hcollected.announced with ⟨hlisted, -⟩ | ⟨-, -, -, hlink⟩
  · exact hblank.not_listed hlisted
  · rw [hlink] at truthy
    cases truthy

/-- **Each link on the pages of a history was followed**, or is the next to be followed, or is on a
page that is not asked for it. -/
theorem Pages.followed {order : Order} {xs : List (Exchange τ)} {result : Progress}
    (h : Pages order xs result) {before after : List (Exchange τ)} {x : Exchange τ} {page : Members}
    (hmade : xs = before ++ x :: after) (hpage : x.page? = some page) :
    Followed (pageLink page) after ∨ (after = [] ∧ pageLink page = result.link) ∨
      Unasked xs page result.rows := by
  induction h generalizing after with
  | @first xs handle polls rows link heard brought =>
    obtain ⟨first, hcollected⟩ := heard.collected brought
    have honly : page = first := by
      have hseen := hcollected.seen
      rw [hmade, pages_split hpage] at hseen
      have hmem : page ∈ [first] := by
        rw [← hseen]
        simp
      exact List.mem_singleton.mp hmem
    subst honly
    rcases hcollected.announced with ⟨-, hlinks⟩ | ⟨hblank, -, -, -⟩
    · exact .inr (.inl ⟨heard.after_page hmade hpage, List.singleton_inj.mp hlinks⟩)
    · exact .inr (.inr (hcollected.unasked hblank))
  | @next xs result link y rows following prior truthy announced errand brought ih =>
    obtain ⟨chunk, hchunk, hdata, hfollowing⟩ := Exchange.page_of_chunk errand brought
    rcases List.eq_nil_or_concat after with rfl | ⟨others, last, rfl⟩
    · -- The page is the chunk that has just come.
      obtain ⟨-, hsame⟩ := List.append_inj' hmade rfl
      obtain rfl : y = x := List.singleton_inj.mp hsame
      obtain rfl : chunk = page := Option.some.inj (hchunk.symm.trans hpage)
      exact .inr (.inl ⟨rfl, hfollowing.symm⟩)
    · rw [List.concat_eq_append, ← List.cons_append, ← List.append_assoc] at hmade
      obtain ⟨hprior, hsame⟩ := List.append_inj' hmade rfl
      obtain rfl : y = last := List.singleton_inj.mp hsame
      rw [List.concat_eq_append]
      rcases ih hprior with hdone | ⟨rfl, hlink⟩ | hunasked
      · exact .inl (hdone.append [y])
      · rw [(newLink_eq_some announced).1] at hlink
        exact .inl (.chunk hlink errand hchunk ⟨rows, hdata⟩)
      · exact absurd hunasked (prior.not_unasked truthy)

/-! ### Results -/

/-- **A complete result.** The page that was read last announces no link, and each link that a page
announces was followed, unless the page is not asked for it; the rows are those of all pages. -/
structure Complete (xs : List (Exchange τ)) (rows : List Document) : Prop where
  ended : ∃ last, lastPage? xs = some last ∧
    ((pageLink last).truthy = false ∨ Unasked xs last rows)
  followed : ∀ before x after page, xs = before ++ x :: after → x.page? = some page →
    (pageLink page).truthy → Followed (pageLink page) after ∨ Unasked xs page rows
  total : rows = (pages xs).flatMap pageRows

theorem Collected.ended {xs : List (Exchange τ)} {result : Progress} {handle : Handle}
    {first : Members} {chunks : List Members} (h : Collected xs result handle first chunks)
    (hlast : ¬ result.link.truthy) : ∃ last, lastPage? xs = some last ∧
      ((pageLink last).truthy = false ∨ Unasked xs last result.rows) := by
  rw [h.lastPage_eq]
  rcases h.announced with ⟨-, hlinks⟩ | ⟨hblank, hchunks, -, -⟩
  · have hlink : (first :: chunks).getLast?.map pageLink = some result.link := by
      rw [← List.getLast?_map, hlinks, List.getLast?_concat]
    obtain ⟨last, hfound, hleft⟩ := Option.map_eq_some_iff.mp hlink
    refine ⟨last, hfound, .inl ?_⟩
    rw [hleft]
    simpa using hlast
  · rw [hchunks]
    exact ⟨first, rfl, .inr (h.unasked hblank)⟩

theorem Pages.complete {order : Order} {xs : List (Exchange τ)} {result : Progress}
    (h : Pages order xs result) (hlast : ¬ result.link.truthy) : Complete xs result.rows := by
  obtain ⟨handle, first, chunks, hcollected⟩ := h.collected
  refine ⟨hcollected.ended hlast, ?_, by rw [hcollected.seen, hcollected.total]⟩
  intro before x after page hmade hpage htruthy
  rcases h.followed hmade hpage with hdone | ⟨-, hlink⟩ | hunasked
  · exact .inl hdone
  · rw [hlink] at htruthy
    exact absurd htruthy hlast
  · exact .inr hunasked

section

variable [Zero τ] [Add τ] [Sub τ] [LT τ] [LE τ] [DecidableLT τ] [DecidableLE τ] [Timeline τ]

namespace Client

/-- **Every result is complete**, whatever the warehouse answers, but for what would come after a
page that says that it has no rows: such a page is not asked for its link. -/
theorem execute_complete (client : Client τ) (job : Job τ) (s : Session τ) (patience : Nat) :
    ∃ xs, (client.execute patience job s).2.exchanges = s.exchanges ++ xs ∧
      ∀ result, (client.execute patience job s).1 = .ok result → Complete xs result.rows := by
  rcases execute_course client job s patience with ⟨failure, -, heq⟩ | ⟨fault, -, -, heq⟩ |
    ⟨connection, xs, stage, ended, -, -, hcourse, heq⟩
  · rw [heq]
    exact ⟨[], by simp, by simp⟩
  · rw [heq]
    exact ⟨[], by simp, by simp⟩
  · rw [heq]
    refine ⟨xs, hcourse.exchanges_eq, fun result hresult => ?_⟩
    have hended := hcourse.history
    rw [Stage.eq_finished hresult (by simp)] at hended
    cases hended with
    | complete pages last => exact pages.complete last

end Client

end

/-! ### Results in pages -/

/-- A warehouse whose result says that it has no rows, but announces a chunk with one. -/
def unaskedSession : Session Rat :=
  exactSession [
    exactResult [("row_count", .int 0), ("next_chunk_internal_link", .str "/chunks/1")],
    exactDocument (.object [("data_array", .list [.list [.str "1"]])])]

namespace Client

/-- The result in two pages is complete: its last page announces no link. -/
theorem execute_complete_paged :
    ∃ result last, (exactClient.execute 4 exactJob pagedSession).1 = .ok result ∧
      Complete (exactClient.execute 4 exactJob pagedSession).2.exchanges result.rows ∧
      result.rows.length = 2 ∧
      lastPage? (exactClient.execute 4 exactJob pagedSession).2.exchanges = some last ∧
      (pageLink last).truthy = false := by
  obtain ⟨xs, hmade, hcomplete⟩ := execute_complete exactClient exactJob pagedSession 4
  have hcount : (exactClient.execute 4 exactJob pagedSession).1.toOption.map (·.rows.length) =
      some 2 := by
    decide +kernel
  obtain ⟨result, hresult, hlength⟩ := Option.map_eq_some_iff.mp hcount
  have hdone := toOption_eq_some.mp hresult
  have hwhole := hcomplete result hdone
  obtain ⟨last, hlast, hended | hunasked⟩ := hwhole.ended
  · rw [hmade]
    exact ⟨result, last, hdone, hwhole, hlength, hlast, hended⟩
  · rw [hunasked.empty] at hlength
    cases hlength

/-- **A page that says that it has no rows is not asked for the chunk that it announces**, and the
result lacks the row in that chunk. -/
theorem execute_unasked :
    ∃ x page result, (exactClient.execute 4 exactJob unaskedSession).2.exchanges = [x] ∧
      lastPage? [x] = some page ∧ (pageLink page).truthy ∧ (pageLink page).text = "/chunks/1" ∧
      (exactClient.execute 4 exactJob unaskedSession).1 = .ok result ∧ result.rows = [] := by
  obtain ⟨hlinks, hrows⟩ : ((exactClient.execute 4 exactJob unaskedSession).2.exchanges.map
        fun x => (lastPage? [x]).map fun page => ((pageLink page).truthy, (pageLink page).text)) =
        [some (true, "/chunks/1")] ∧
      ((exactClient.execute 4 exactJob unaskedSession).1.toOption.map fun result =>
        result.rows.isEmpty) = some true := by
    decide +kernel
  obtain ⟨x, hmade, hlink⟩ := List.map_eq_singleton_iff.mp hlinks
  obtain ⟨page, hpage, hannounced⟩ := Option.map_eq_some_iff.mp hlink
  obtain ⟨htruthy, htext⟩ := Prod.mk.inj hannounced
  obtain ⟨result, hresult, hempty⟩ := Option.map_eq_some_iff.mp hrows
  exact ⟨x, page, result, hmade, hpage, htruthy, htext, toOption_eq_some.mp hresult,
    List.isEmpty_iff.mp hempty⟩

end Client

end Indicator.Warehouse
