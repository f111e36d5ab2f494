import Mathlib.Data.List.TakeWhile
import Indicator.Proofs.Outcome
import Indicator.Web.Url

/-!
# Addresses at one base

Links that start with a slash are appended to a base address, so that the addresses of two of them
have the same place in front: the same scheme and the same authority or, where the base has
neither, the same first part of the path.

* `checkScheme_of_local`: if the address of one such link starts with a scheme, that of every other
  one does.
-/

namespace Indicator.Web

/-! ### Encoding -/

/-- The characters that stand for one in an address. -/
def encodedChar (safe : Char → Bool) (c : Char) : Except Text.Unencodable (List Char) :=
  if safe c then .ok [c] else percentEncode c

theorem encodeWith_eq_ok {safe : Char → Bool} {text out : List Char} :
    encodeWith safe text = .ok out ↔
      ∃ parts, text.mapM (encodedChar safe) = .ok parts ∧ parts.flatten = out := by
  unfold encodeWith
  rw [bind_eq_ok]
  refine exists_congr fun parts => and_congr_right fun _ => ?_
  simp [pure, Except.pure]

theorem encodeWith_nil {safe : Char → Bool} {out : List Char} (h : encodeWith safe [] = .ok out) :
    out = [] := by
  obtain ⟨parts, hparts, rfl⟩ := encodeWith_eq_ok.mp h
  cases hparts
  rfl

theorem encodeWith_cons {safe : Char → Bool} {c : Char} {text out : List Char}
    (h : encodeWith safe (c :: text) = .ok out) :
    ∃ first rest, encodedChar safe c = .ok first ∧ encodeWith safe text = .ok rest ∧
      out = first ++ rest := by
  obtain ⟨parts, hparts, rfl⟩ := encodeWith_eq_ok.mp h
  rw [List.mapM_cons, bind_eq_ok] at hparts
  obtain ⟨first, hfirst, hparts⟩ := hparts
  rw [bind_eq_ok] at hparts
  obtain ⟨more, hmore, hparts⟩ := hparts
  cases hparts
  exact ⟨first, more.flatten, hfirst, encodeWith_eq_ok.mpr ⟨more, hmore, rfl⟩, rfl⟩

theorem encodeWith_append {safe : Char → Bool} {front back out : List Char}
    (h : encodeWith safe (front ++ back) = .ok out) :
    ∃ first rest, encodeWith safe front = .ok first ∧ encodeWith safe back = .ok rest ∧
      out = first ++ rest := by
  obtain ⟨parts, hparts, rfl⟩ := encodeWith_eq_ok.mp h
  rw [List.mapM_append, bind_eq_ok] at hparts
  obtain ⟨first, hfirst, hparts⟩ := hparts
  rw [bind_eq_ok] at hparts
  obtain ⟨rest, hrest, hparts⟩ := hparts
  cases hparts
  exact ⟨first.flatten, rest.flatten, encodeWith_eq_ok.mpr ⟨first, hfirst, rfl⟩,
    encodeWith_eq_ok.mpr ⟨rest, hrest, rfl⟩, List.flatten_append⟩

theorem isAlphanum_of_mem_hexDigits (width n : Nat) :
    ∀ c ∈ Text.hexDigitsUpper width n, c.isAlphanum = true := by
  induction width generalizing n with
  | zero => simp [Text.hexDigitsUpper, Text.hexDigits]
  | succ width ih =>
    have hlast : ∀ digit < 16, (Text.hexDigit digit).toUpper.isAlphanum = true := by decide
    intro c hc
    rw [Text.hexDigitsUpper, Text.hexDigits, List.map_append, List.mem_append] at hc
    rcases hc with hc | hc
    · exact ih (n / 16) c hc
    · rw [List.mem_singleton.mp hc]
      exact hlast (n % 16) (Nat.mod_lt _ (by decide))

/-- The characters that octets are written with. -/
theorem mem_percentEncode {c d : Char} {out : List Char} (h : percentEncode c = .ok out)
    (hd : d ∈ out) : d = '%' ∨ d.isAlphanum = true := by
  unfold percentEncode at h
  rw [bind_eq_ok] at h
  obtain ⟨text, -, h⟩ := h
  cases h
  obtain ⟨octet, -, hmem⟩ := List.mem_flatMap.mp hd
  rcases List.mem_cons.mp hmem with hpercent | hdigit
  · exact .inl hpercent
  · exact .inr (isAlphanum_of_mem_hexDigits _ _ d hdigit)

/-- The characters of an encoded text: safe ones of the text, and those that octets are written
with. -/
theorem of_mem_encodeWith {safe : Char → Bool} {text out : List Char} {d : Char}
    (h : encodeWith safe text = .ok out) (hd : d ∈ out) :
    (d ∈ text ∧ safe d = true) ∨ d = '%' ∨ d.isAlphanum = true := by
  induction text generalizing out with
  | nil =>
    rw [encodeWith_nil h] at hd
    cases hd
  | cons c text ih =>
    obtain ⟨first, rest, hfirst, hrest, rfl⟩ := encodeWith_cons h
    rcases List.mem_append.mp hd with hd | hd
    · unfold encodedChar at hfirst
      split at hfirst
      · rename_i hc
        cases hfirst
        obtain rfl := List.mem_singleton.mp hd
        exact .inl ⟨List.mem_cons_self, hc⟩
      · exact .inr (mem_percentEncode hfirst hd)
    · exact (ih hrest hd).imp_left fun hsafe => ⟨List.mem_cons_of_mem _ hsafe.1, hsafe.2⟩

/-- A number sign is always encoded where it is not safe. -/
theorem hash_notMem_encodeWith {safe : Char → Bool} (hsafe : safe '#' = false)
    {text out : List Char} (h : encodeWith safe text = .ok out) : '#' ∉ out := by
  intro hhash
  rcases of_mem_encodeWith h hhash with ⟨-, hhash⟩ | hhash | hhash
  · rw [hsafe] at hhash
    cases hhash
  · exact absurd hhash (by decide)
  · exact absurd hhash (by decide)

/-- A safe character stays. -/
theorem mem_encodeWith {safe : Char → Bool} {mark : Char} (hsafe : safe mark = true)
    {text out : List Char} (hmem : mark ∈ text) (h : encodeWith safe text = .ok out) :
    mark ∈ out := by
  induction text generalizing out with
  | nil => cases hmem
  | cons c text ih =>
    obtain ⟨first, rest, hfirst, hrest, rfl⟩ := encodeWith_cons h
    rw [List.mem_append]
    rcases List.mem_cons.mp hmem with rfl | hmem
    · rw [encodedChar, if_pos hsafe] at hfirst
      cases hfirst
      exact .inl List.mem_cons_self
    · exact .inr (ih hmem hrest)

/-! ### The text in front of a fragment -/

namespace Url

/-- A text up to its last number sign. -/
def unfragmented (whole : List Char) : List Char :=
  match whole.reverse.dropWhile (· ≠ '#') with
  | [] => whole
  | _ :: rest => rest.reverse

/-- Whether a text starts with a name that a colon follows. -/
def startsScheme (text : List Char) : Bool :=
  let name := text.takeWhile fun c => c ≠ '/' && c ≠ ':'
  !name.isEmpty && text[name.length]? = some ':'

theorem checkScheme_eq_ok {url : Url} :
    url.checkScheme = .ok () ↔ startsScheme (unfragmented url.text.toList) = true := by
  have hchecked : url.checkScheme =
      if startsScheme (unfragmented url.text.toList) then .ok ()
      else .error (.schemeless (if url.text.toList.getLast? = some '#' then
        String.ofList (unfragmented url.text.toList) else url.text)) := rfl
  rw [hchecked]
  split
  · rename_i hscheme
    simp [hscheme]
  · rename_i hscheme
    simp [hscheme]

theorem dropWhile_reverse_eq_nil {text : List Char} (h : '#' ∉ text) :
    text.reverse.dropWhile (· ≠ '#') = [] := by
  rw [List.dropWhile_eq_nil_iff]
  intro c hc
  have hne : c ≠ '#' := by
    rintro rfl
    exact h (List.mem_reverse.mp hc)
  simpa using hne

theorem unfragmented_append_of_mem {front back : List Char} (h : '#' ∈ back) :
    unfragmented (front ++ back) = front ++ unfragmented back := by
  unfold unfragmented
  have hrest : back.reverse.dropWhile (· ≠ '#') ≠ [] := by
    rw [Ne, List.dropWhile_eq_nil_iff]
    intro hall
    simpa using hall '#' (List.mem_reverse.mpr h)
  rw [List.reverse_append, List.dropWhile_append, if_neg (by simpa using hrest)]
  cases hdrop : back.reverse.dropWhile (· ≠ '#') with
  | nil => exact absurd hdrop hrest
  | cons c rest => simp

theorem unfragmented_of_notMem {text : List Char} (h : '#' ∉ text) : unfragmented text = text := by
  rw [unfragmented, dropWhile_reverse_eq_nil h]

theorem unfragmented_append_of_notMem {front back : List Char} (hback : '#' ∉ back)
    (hfront : '#' ∈ front) : unfragmented (front ++ back) = unfragmented front := by
  unfold unfragmented
  rw [List.reverse_append, List.dropWhile_append, dropWhile_reverse_eq_nil hback,
    if_pos List.isEmpty_nil]
  cases hfound : front.reverse.dropWhile (· ≠ '#') with
  | nil =>
    rw [List.dropWhile_eq_nil_iff] at hfound
    simpa using hfound '#' (List.mem_reverse.mpr hfront)
  | cons c rest => rfl

/-- Whether a text starts with a scheme is told by the first slash or colon. -/
theorem startsScheme_append {front back : List Char} (h : '/' ∈ front ∨ ':' ∈ front) :
    startsScheme (front ++ back) = startsScheme front := by
  unfold startsScheme
  have hlength : (front.takeWhile fun c => c ≠ '/' && c ≠ ':').length < front.length := by
    refine Nat.lt_of_le_of_ne (List.takeWhile_prefix _).length_le ?_
    intro heq
    have hall := List.takeWhile_eq_self_iff.mp ((List.takeWhile_prefix _).eq_of_length heq)
    rcases h with hslash | hcolon
    · simpa using hall _ hslash
    · simpa using hall _ hcolon
  rw [List.takeWhile_append, if_neg (Nat.ne_of_lt hlength)]
  dsimp only
  rw [List.getElem?_append_left hlength]

/-- The middle of a text does not tell whether it starts with a scheme, if there is a slash or a
colon before it and it starts no fragment. -/
theorem startsScheme_middle {front back middle other : List Char}
    (hfront : '/' ∈ front ∨ ':' ∈ front) (hmiddle : '#' ∉ middle) (hother : '#' ∉ other) :
    startsScheme (unfragmented (front ++ (middle ++ back))) =
      startsScheme (unfragmented (front ++ (other ++ back))) := by
  by_cases hback : '#' ∈ back
  · rw [unfragmented_append_of_mem (List.mem_append_right _ hback),
      unfragmented_append_of_mem (List.mem_append_right _ hback),
      startsScheme_append hfront, startsScheme_append hfront]
  · have hrest : '#' ∉ middle ++ back := by simp [hmiddle, hback]
    have hrest' : '#' ∉ other ++ back := by simp [hother, hback]
    by_cases hhash : '#' ∈ front
    · rw [unfragmented_append_of_notMem hrest hhash, unfragmented_append_of_notMem hrest' hhash]
    · rw [unfragmented_of_notMem (by simp [hhash, hmiddle, hback]),
        unfragmented_of_notMem (by simp [hhash, hother, hback]),
        startsScheme_append hfront, startsScheme_append hfront]

/-! ### Addresses put together -/

theorem encodePart_eq_ok {safe : Char → Bool} {part : List Char} {out : String} :
    encodePart safe part = .ok out ↔ encodeWith safe part = .ok out.toList := by
  rw [encodePart, mapError_eq_ok, map_eq_ok]
  constructor
  · rintro ⟨text, htext, rfl⟩
    rw [htext, String.toList_ofList]
  · intro h
    exact ⟨out.toList, h, String.ofList_toList⟩

/-- The user, the host and the number after it, as they are read from an authority. -/
def placeOf (scheme authority : List Char) :
    Except UrlFault (String × String × Option Int) := do
  let (user, location) := splitUser authority
  let (host, digits) := splitHost location
  let user ← encodePart isUserSafe user
  let host ← readHost host
  let number ← readNumber (String.ofList scheme) digits
  return (user, host, number)

/-- Where an address is, without what is asked for there. -/
def place (url : Url) : String × String × Option Int := (url.user, url.host, url.number)

theorem ofParts_eq_ok {scheme authority path : List Char} {query fragment : Option (List Char)}
    {url : Url} (h : ofParts scheme authority path query fragment = .ok url) :
    url.scheme = String.ofList (scheme.map Char.toLower) ∧
      placeOf scheme authority = .ok url.place ∧
      (∃ kept, kept = (if !scheme.isEmpty || (url.user ≠ "" || url.host ≠ "" || url.number.isSome)
          then normalPath path else path) ∧ encodePart isPathSafe kept = .ok url.path) ∧
      query.mapM (encodePart isQuerySafe) = .ok url.query ∧
      fragment.mapM (encodePart isFragmentSafe) = .ok url.fragment := by
  unfold ofParts at h
  dsimp only at h
  obtain ⟨user, huser, h⟩ := bind_eq_ok.mp h
  obtain ⟨host, hhost, h⟩ := bind_eq_ok.mp h
  obtain ⟨number, hnumber, h⟩ := bind_eq_ok.mp h
  obtain ⟨-, -, h⟩ := bind_eq_ok.mp h
  obtain ⟨path', hpath, h⟩ := bind_eq_ok.mp h
  obtain ⟨query', hquery, h⟩ := bind_eq_ok.mp h
  obtain ⟨fragment', hfragment, h⟩ := bind_eq_ok.mp h
  cases h
  refine ⟨rfl, ?_, ⟨_, rfl, hpath⟩, hquery, hfragment⟩
  unfold placeOf
  dsimp only
  rw [huser, hhost, hnumber]
  rfl

theorem withTarget_eq_ok {base url : Url} {target : List Char}
    (h : base.withTarget target = .ok url) :
    ofParts base.scheme.toList base.authority.toList (splitFirst '?' target).1
      (splitFirst '?' target).2 (base.fragment.map String.toList) = .ok url := by
  unfold withTarget at h
  dsimp only at h
  split at h
  · cases h
  · exact h

/-- A link that starts with a slash has no scheme. -/
theorem scheme_of_local {link : List Char} {url : Url} (hlink : link.head? = some '/')
    (h : parse link = .ok url) : url.scheme = "" := by
  unfold parse at h
  split at h
  · cases h
  · dsimp only at h
    split at h
    · cases h
    · obtain ⟨rest, rfl⟩ : ∃ rest, link = '/' :: rest := by
        cases link with
        | nil => cases hlink
        | cons c rest => exact ⟨rest, by rw [Option.some.inj hlink]⟩
      exact (ofParts_eq_ok h).1

/-- A link that starts with a slash is appended to the base. -/
theorem resolve_local {base url : Url} {link : String} (hlink : link.toList.head? = some '/')
    (h : base.resolve link = .ok url) :
    ∃ further, base.withTarget (base.target.toList ++ further) = .ok url := by
  obtain ⟨relative, hparse, h⟩ := bind_eq_ok.mp h
  have hrelative : relative.isAbsolute = false := by
    rw [isAbsolute, scheme_of_local hlink hparse]
    rfl
  rw [hrelative] at h
  exact ⟨_, h⟩

/-! ### What is asked for -/

theorem splitFirst_of_notMem {mark : Char} {text : List Char} (h : mark ∉ text) :
    splitFirst mark text = (text, none) := by
  have hdrop : text.dropWhile (· ≠ mark) = [] := by
    rw [List.dropWhile_eq_nil_iff]
    intro c hc
    have hne : c ≠ mark := by
      rintro rfl
      exact h hc
    simpa using hne
  rw [splitFirst, hdrop]

theorem splitFirst_append {mark : Char} {front back : List Char} (h : mark ∉ front) :
    splitFirst mark (front ++ mark :: back) = (front, some back) := by
  have hall : ∀ c ∈ front, decide (c ≠ mark) = true := by
    intro c hc
    have hne : c ≠ mark := by
      rintro rfl
      exact h hc
    simpa using hne
  have hdrop : (front ++ mark :: back).dropWhile (· ≠ mark) = mark :: back := by
    rw [List.dropWhile_append_of_pos hall, List.dropWhile_cons_of_neg (by simp)]
  have htake : (front ++ mark :: back).takeWhile (· ≠ mark) = front := by
    rw [List.takeWhile_append_of_pos hall, List.takeWhile_cons_of_neg (by simp), List.append_nil]
  rw [splitFirst, hdrop, htake]

theorem mapM_encodePart {safe : Char → Bool} {part : Option (List Char)} {out : Option String}
    (h : part.mapM (encodePart safe) = .ok out) :
    (part = none ∧ out = none) ∨
      ∃ text shown, part = some text ∧ out = some shown ∧
        encodeWith safe text = .ok shown.toList := by
  cases part with
  | none => exact .inl ⟨rfl, (Except.ok.inj h).symm⟩
  | some text =>
    rw [Option.mapM_some, map_eq_pure_bind, bind_eq_ok] at h
    obtain ⟨shown, hshown, h⟩ := h
    exact .inr ⟨text, shown, rfl, (Except.ok.inj h).symm, encodePart_eq_ok.mp hshown⟩

/-- The path and the query of an address as they stand in it. -/
def middle (url : Url) : List Char := url.path.toList ++ (ledBy "?" url.query).toList

theorem hash_notMem_middle {scheme authority path : List Char}
    {query fragment : Option (List Char)} {url : Url}
    (h : ofParts scheme authority path query fragment = .ok url) : '#' ∉ url.middle := by
  obtain ⟨-, -, ⟨kept, -, hpath⟩, hquery, -⟩ := ofParts_eq_ok h
  rw [middle, List.mem_append, not_or]
  refine ⟨hash_notMem_encodeWith rfl (encodePart_eq_ok.mp hpath), ?_⟩
  rcases mapM_encodePart hquery with ⟨-, hnone⟩ | ⟨text, shown, -, hsome, hshown⟩
  · rw [hnone]
    simp [ledBy]
  · rw [hsome]
    have hhash := hash_notMem_encodeWith rfl hshown
    simpa [ledBy] using hhash

/-- The first part of what is asked for, as it stands in an address that has no place. -/
def encodedFront (front : List Char) : Except Text.Unencodable (List Char) :=
  match splitFirst '?' front with
  | (path, none) => encodeWith isPathSafe path
  | (path, some query) => do
    let path ← encodeWith isPathSafe path
    let query ← encodeWith isQuerySafe query
    return path ++ '?' :: query

theorem encodedFront_of_path {front : List Char} (h : '?' ∉ front) :
    encodedFront front = encodeWith isPathSafe front := by
  rw [encodedFront, splitFirst_of_notMem h]

theorem encodedFront_of_query {path query pathOut queryOut : List Char} (h : '?' ∉ path)
    (hpath : encodeWith isPathSafe path = .ok pathOut)
    (hquery : encodeWith isQuerySafe query = .ok queryOut) :
    encodedFront (path ++ '?' :: query) = .ok (pathOut ++ '?' :: queryOut) := by
  rw [encodedFront, splitFirst_append h]
  dsimp only
  rw [hpath, hquery]
  rfl

theorem slash_mem_encodedFront {front out : List Char} (hslash : '/' ∈ front)
    (h : encodedFront front = .ok out) : '/' ∈ out := by
  by_cases hquery : '?' ∈ front
  · obtain ⟨path, query, rfl, hpath⟩ := List.eq_append_cons_of_mem hquery
    rw [encodedFront, splitFirst_append hpath] at h
    obtain ⟨pathOut, hpathOut, h⟩ := bind_eq_ok.mp h
    obtain ⟨queryOut, hqueryOut, h⟩ := bind_eq_ok.mp h
    cases h
    rcases List.mem_append.mp hslash with hslash | hslash
    · exact List.mem_append_left _ (mem_encodeWith rfl hslash hpathOut)
    · have hslash : '/' ∈ query := by simpa using hslash
      exact List.mem_append_right _
        (List.mem_cons_of_mem _ (mem_encodeWith rfl hslash hqueryOut))
  · rw [encodedFront_of_path hquery] at h
    exact mem_encodeWith rfl hslash h

/-- Where there is no place, what is asked for stands in the address as it is. -/
theorem middle_of_placeless {scheme authority front further : List Char}
    {fragment : Option (List Char)} {url : Url} (hscheme : scheme = [])
    (hplace : url.place = ("", "", none))
    (h : ofParts scheme authority (splitFirst '?' (front ++ further)).1
      (splitFirst '?' (front ++ further)).2 fragment = .ok url) :
    ∃ out rest, encodedFront front = .ok out ∧ url.middle = out ++ rest := by
  obtain ⟨-, -, ⟨kept, hkept, hpath⟩, hquery, -⟩ := ofParts_eq_ok h
  simp only [place, Prod.mk.injEq] at hplace
  rw [hscheme, hplace.1, hplace.2.1, hplace.2.2, if_neg (by simp)] at hkept
  rw [hkept, encodePart_eq_ok] at hpath
  by_cases hmark : '?' ∈ front
  · obtain ⟨path, query, rfl, hnot⟩ := List.eq_append_cons_of_mem hmark
    rw [List.append_assoc, List.cons_append, splitFirst_append hnot] at hpath hquery
    rcases mapM_encodePart hquery with ⟨hnone, -⟩ | ⟨text, shown, htext, hsome, hshown⟩
    · cases hnone
    · cases htext
      obtain ⟨first, rest, hfirst, -, hout⟩ := encodeWith_append hshown
      refine ⟨_, rest, encodedFront_of_query hnot hpath hfirst, ?_⟩
      simp [middle, hsome, ledBy, hout]
  · rw [encodedFront_of_path hmark]
    by_cases hmark' : '?' ∈ further
    · obtain ⟨path, query, rfl, hnot⟩ := List.eq_append_cons_of_mem hmark'
      have hnot' : '?' ∉ front ++ path := by simp [hmark, hnot]
      rw [← List.append_assoc, splitFirst_append hnot'] at hpath
      obtain ⟨first, rest, hfirst, -, hout⟩ := encodeWith_append hpath
      exact ⟨first, _, hfirst, by rw [middle, hout, List.append_assoc]⟩
    · have hnot' : '?' ∉ front ++ further := by simp [hmark, hmark']
      rw [splitFirst_of_notMem hnot'] at hpath
      obtain ⟨first, rest, hfirst, -, hout⟩ := encodeWith_append hpath
      exact ⟨first, _, hfirst, by rw [middle, hout, List.append_assoc]⟩

/-! ### Base addresses -/

theorem splitAt_append (mark : Char) (front back : List Char) :
    splitAt mark (front ++ mark :: back) = splitAt mark front ++ splitAt mark back := by
  induction front with
  | nil => simp [splitAt]
  | cons c front ih =>
    rw [List.cons_append, splitAt, splitAt, ih]
    by_cases hc : c = mark
    · rw [if_pos hc, if_pos hc, List.cons_append]
    · rw [if_neg hc, if_neg hc]
      cases hsplit : splitAt mark front with
      | nil =>
        cases front with
        | nil => cases hsplit
        | cons d front =>
          exfalso
          rw [splitAt] at hsplit
          split at hsplit
          · cases hsplit
          · split at hsplit <;> cases hsplit
      | cons part more => rfl

theorem resolveDots_append_singleton {last : List Char} (hdot : last ≠ ['.'])
    (hdots : last ≠ ['.', '.']) (kept segments : List (List Char)) :
    resolveDots kept (segments ++ [last]) = resolveDots kept segments ++ [last] := by
  induction segments generalizing kept with
  | nil => simp [resolveDots, hdot, hdots]
  | cons segment segments ih =>
    rw [List.cons_append, resolveDots, resolveDots]
    split
    · exact ih kept
    · split
      · exact ih _
      · exact ih _

/-- A path that ends with a slash is empty without dot segments or still has a slash. -/
theorem slash_mem_normalPath (text : List Char) :
    normalPath (text ++ ['/']) = [] ∨ '/' ∈ normalPath (text ++ ['/']) := by
  rw [normalPath, splitAt_append, splitAt, resolveDots_append_singleton (by simp) (by simp)]
  cases resolveDots [] (splitAt '/' text) with
  | nil => exact .inl rfl
  | cons segment segments =>
    right
    rw [List.cons_append, List.intercalate_cons_of_ne_nil (by simp)]
    simp

theorem slash_mem_target {scheme authority text : List Char} {fragment : Option (List Char)}
    {url : Url} (h : ofParts scheme authority (splitFirst '?' (text ++ ['/'])).1
      (splitFirst '?' (text ++ ['/'])).2 fragment = .ok url) : '/' ∈ url.target.toList := by
  obtain ⟨-, -, ⟨kept, hkept, hpath⟩, hquery, -⟩ := ofParts_eq_ok h
  rw [encodePart_eq_ok] at hpath
  rw [target, String.toList_append, List.mem_append]
  by_cases hmark : '?' ∈ text
  · obtain ⟨path, query, rfl, hnot⟩ := List.eq_append_cons_of_mem hmark
    rw [List.append_assoc, List.cons_append, splitFirst_append hnot] at hquery
    rcases mapM_encodePart hquery with ⟨hnone, -⟩ | ⟨part, shown, htext, hsome, hshown⟩
    · cases hnone
    · cases htext
      right
      have hslash := mem_encodeWith rfl (by simp : '/' ∈ query ++ ['/']) hshown
      simpa [hsome, ledBy] using hslash
  · left
    have hnot : '?' ∉ text ++ ['/'] := by simp [hmark]
    rw [splitFirst_of_notMem hnot] at hkept
    have hslash : kept = [] ∨ '/' ∈ kept := by
      rw [hkept]
      split
      · exact slash_mem_normalPath text
      · exact .inr (by simp)
    rcases hslash with rfl | hslash
    · have hempty : url.path = "" := String.toList_eq_nil_iff.mp (encodeWith_nil hpath)
      rw [if_pos hempty]
      decide
    · have hmem := mem_encodeWith rfl hslash hpath
      have hne : url.path ≠ "" := by
        intro hempty
        rw [hempty] at hmem
        cases hmem
      rw [if_neg hne]
      exact hmem

/-- What is asked for at a base address has a slash. -/
theorem slash_mem_parseBase {text : String} {base : Url} (h : parseBase text = .ok base) :
    '/' ∈ base.target.toList := by
  obtain ⟨url, -, h⟩ := bind_eq_ok.mp h
  dsimp only at h
  split at h
  · rename_i hlast
    cases h
    exact List.mem_of_getLast? hlast
  · exact slash_mem_target (withTarget_eq_ok h)

/-! ### Addresses at one base -/

/-- The place of an address as it stands in it, with the scheme in front of it. -/
def front (url : Url) : List Char :=
  (if url.scheme = "" then [] else url.scheme.toList ++ [':']) ++
    (if url.authority = "" then [] else '/' :: '/' :: url.authority.toList)

theorem text_eq (url : Url) :
    url.text.toList = url.front ++ (url.middle ++ (ledBy "#" url.fragment).toList) := by
  unfold text front middle
  by_cases hscheme : url.scheme = ""
  · by_cases hauthority : url.authority = ""
    · simp [hscheme, hauthority]
    · simp [hscheme, hauthority]
  · by_cases hauthority : url.authority = ""
    · simp [hscheme, hauthority]
    · simp [hscheme, hauthority]

theorem front_congr {first second : Url} (hscheme : first.scheme = second.scheme)
    (hplace : first.place = second.place) : first.front = second.front := by
  simp only [place, Prod.mk.injEq] at hplace
  obtain ⟨huser, hhost, hnumber⟩ := hplace
  have hauthority : first.authority = second.authority := by
    rw [authority, authority, location, location, huser, hhost, hnumber]
  rw [front, front, hscheme, hauthority]

theorem placeless_of_front {url : Url} (h : url.front = []) :
    url.scheme = "" ∧ url.place = ("", "", none) := by
  rw [front, List.append_eq_nil_iff] at h
  have hscheme : url.scheme = "" := by
    by_contra hne
    simpa [hne] using h.1
  have hauthority : url.authority = "" := by
    by_contra hne
    simpa [hne] using h.2
  refine ⟨hscheme, ?_⟩
  have huser : url.user = "" := by
    by_contra hne
    simp [authority, hne] at hauthority
  have hlocation : url.location = "" := by simpa [authority, huser] using hauthority
  have hhost : url.host = "" := by
    by_contra hne
    rw [location] at hlocation
    split at hlocation
    · simp at hlocation
    · simp [hne] at hlocation
  have hnumber : url.number = none := by
    cases hn : url.number with
    | none => rfl
    | some n => simp [location, hn] at hlocation
  rw [place, huser, hhost, hnumber]

theorem mark_mem_front {url : Url} (h : url.front ≠ []) :
    '/' ∈ url.front ∨ ':' ∈ url.front := by
  by_cases hscheme : url.scheme = ""
  · by_cases hauthority : url.authority = ""
    · simp [front, hscheme, hauthority] at h
    · simp [front, hscheme, hauthority]
  · simp [front, hscheme]

/-- **If one link that starts with a slash makes an address with a scheme**, every such link
does. -/
theorem checkScheme_of_local {host : String} {base first second : Url} {link other : String}
    (hbase : parseBase host = .ok base) (hlink : link.toList.head? = some '/')
    (hother : other.toList.head? = some '/') (hfirst : base.resolve link = .ok first)
    (hsecond : base.resolve other = .ok second) (h : first.checkScheme = .ok ()) :
    second.checkScheme = .ok () := by
  obtain ⟨further, hfirst⟩ := resolve_local hlink hfirst
  obtain ⟨further', hsecond⟩ := resolve_local hother hsecond
  have hparts := withTarget_eq_ok hfirst
  have hparts' := withTarget_eq_ok hsecond
  obtain ⟨hscheme, hplace, -, -, hfragment⟩ := ofParts_eq_ok hparts
  obtain ⟨hscheme', hplace', -, -, hfragment'⟩ := ofParts_eq_ok hparts'
  have hfront : first.front = second.front := by
    refine front_congr (hscheme.trans hscheme'.symm) ?_
    rw [hplace] at hplace'
    exact Except.ok.inj hplace'
  have hback : first.fragment = second.fragment := by
    rw [hfragment] at hfragment'
    exact Except.ok.inj hfragment'
  have hhash := hash_notMem_middle hparts
  have hhash' := hash_notMem_middle hparts'
  rw [checkScheme_eq_ok, text_eq] at h ⊢
  rw [← hfront, ← hback]
  by_cases hempty : first.front = []
  · -- without a place both addresses start with the base, which has a slash
    obtain ⟨hnone, hplaceless⟩ := placeless_of_front hempty
    obtain ⟨-, hplaceless'⟩ := placeless_of_front (hfront ▸ hempty)
    have hbare : base.scheme.toList = [] := by
      rw [hnone] at hscheme
      simpa using (congrArg String.toList hscheme).symm
    obtain ⟨out, rest, hout, hmiddle⟩ := middle_of_placeless hbare hplaceless hparts
    obtain ⟨out', rest', hout', hmiddle'⟩ := middle_of_placeless hbare hplaceless' hparts'
    obtain rfl : out = out' := by
      rw [hout] at hout'
      exact Except.ok.inj hout'
    have hslash := slash_mem_encodedFront (slash_mem_parseBase hbase) hout
    rw [hmiddle, List.mem_append, not_or] at hhash
    rw [hmiddle', List.mem_append, not_or] at hhash'
    rw [hempty, hmiddle, List.nil_append, List.append_assoc] at h
    rw [hempty, hmiddle', List.nil_append, List.append_assoc]
    rw [startsScheme_middle (.inl hslash) hhash'.2 hhash.2]
    exact h
  · rw [startsScheme_middle (mark_mem_front hempty) hhash' hhash]
    exact h

end Url

end Indicator.Web
