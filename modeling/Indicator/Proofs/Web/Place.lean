import Indicator.Proofs.Text.Whole
import Indicator.Proofs.Web.Address
import Indicator.Proofs.Web.DomainName

/-!
# Addresses at the place of their base

A link that is appended to a base address leads to the place of the base: the place is written out
and read again, which changes the case of ASCII letters at most. The host that is read has no
character that would end it, or it stands in brackets as it is.

* `readHost_cases`: the characters of a host.
* `location_reread`: what is read from the text of a place.
* `resolve_cases`: **a link is an address by itself, or leads to the scheme and the host of its
  base.**
-/

namespace Indicator.Web

open Text (lowerAscii)

/-! ### The characters of a host -/

theorem toNat_of_isHostSafe {c : Char} (h : isHostSafe c = true) : c.toNat < 0x80 := by
  simp only [isHostSafe, isVisible, Bool.and_eq_true, decide_eq_true_eq] at h
  omega

theorem isHostSafe_of_isNameChar {c : Char} (h : DomainName.isNameChar c = true) :
    isHostSafe c = true := by
  have hall : ∀ n < 0x80, DomainName.isNameChar (Char.ofNat n) = true →
      isHostSafe (Char.ofNat n) = true := by decide +kernel
  exact Text.forall_ascii
    (p := fun c => DomainName.isNameChar c = true → isHostSafe c = true) hall
    (DomainName.toNat_of_isNameChar h) h

theorem isHostSafe_toLower {c : Char} (h : isHostSafe c = true) : isHostSafe c.toLower = true := by
  have hall : ∀ n < 0x80, isHostSafe (Char.ofNat n) = true →
      isHostSafe (Char.ofNat n).toLower = true := by decide +kernel
  exact Text.forall_ascii (p := fun c => isHostSafe c = true → isHostSafe c.toLower = true)
    hall (toNat_of_isHostSafe h) h

/-- A text of safe characters stays as it is. -/
theorem encodeWith_of_safe {safe : Char → Bool} {text : List Char}
    (h : ∀ c ∈ text, safe c = true) : encodeWith safe text = .ok text := by
  refine encodeWith_eq_ok.mpr ⟨text.map ([·]), ?_, ?_⟩
  rotate_left
  · rw [← List.flatMap_def, List.flatMap_singleton']
  induction text with
  | nil => rfl
  | cons c text ih =>
    rw [List.mapM_cons, encodedChar, if_pos (h c List.mem_cons_self),
      ih fun d hd => h d (List.mem_cons_of_mem _ hd)]
    rfl

theorem mem_splitAt (mark : Char) {c : Char} {text : List Char} (h : c ∈ text) :
    c = mark ∨ ∃ part ∈ splitAt mark text, c ∈ part := by
  induction text with
  | nil => cases h
  | cons d text ih =>
    rw [splitAt]
    by_cases hd : d = mark
    · rw [if_pos hd]
      rcases List.mem_cons.mp h with rfl | h
      · exact .inl hd
      · refine (ih h).imp_right ?_
        rintro ⟨part, hpart, hc⟩
        exact ⟨part, List.mem_cons_of_mem _ hpart, hc⟩
    · rw [if_neg hd]
      cases hsplit : splitAt mark text with
      | nil =>
        rcases List.mem_cons.mp h with rfl | h
        · exact .inr ⟨[c], by simp, by simp⟩
        · rcases ih h with hmark | ⟨part, hpart, -⟩
          · exact .inl hmark
          · rw [hsplit] at hpart
            cases hpart
      | cons part more =>
        rw [hsplit] at ih
        rcases List.mem_cons.mp h with rfl | h
        · exact .inr ⟨c :: part, by simp, by simp⟩
        · refine (ih h).imp_right ?_
          rintro ⟨other, hother, hc⟩
          rcases List.mem_cons.mp hother with rfl | hother
          · exact ⟨d :: other, by simp, List.mem_cons_of_mem _ hc⟩
          · exact ⟨other, List.mem_cons_of_mem _ hother, hc⟩

theorem isHostSafe_of_isFour {host : List Char} (h : Host.isFour host = true) :
    ∀ c ∈ host, isHostSafe c = true := by
  intro c hc
  simp only [Host.isFour, Bool.and_eq_true, List.all_eq_true] at h
  rcases mem_splitAt '.' hc with rfl | ⟨part, hpart, hc⟩
  · decide
  · have hoctet := h.2 part hpart
    simp only [Host.isOctet, Bool.and_eq_true, List.all_eq_true] at hoctet
    have hdigit := hoctet.1.1.1.2 c hc
    refine isHostSafe_of_isNameChar (DomainName.isNameChar_of_isAlphanum ?_)
    simp [Char.isAlphanum, hdigit]

theorem splitAt_of_notMem {mark : Char} {text : List Char} (h : mark ∉ text) :
    splitAt mark text = [text] := by
  induction text with
  | nil => rfl
  | cons c text ih =>
    rw [List.mem_cons, not_or] at h
    rw [splitAt, if_neg (Ne.symm h.1), ih h.2]

theorem colon_mem_of_isEight {host : List Char} (h : Host.isEight host = true) : ':' ∈ host := by
  by_contra hcolon
  have haddress : ':' ∉ host.takeWhile (· ≠ '%') := fun hmem =>
    hcolon ((List.takeWhile_prefix _).subset hmem)
  have hgroups : Host.groupsOf? (host.takeWhile (· ≠ '%')) = none := by
    rw [Host.groupsOf?, splitAt_of_notMem haddress]
    rfl
  simp only [Host.isEight, Bool.and_eq_true] at h
  rw [hgroups] at h
  cases h.2

/-- A text between brackets. -/
theorem eq_of_brackets {text : List Char} (hopen : text.head? = some '[')
    (hclose : text.getLast? = some ']') : text = '[' :: ((text.drop 1).dropLast ++ [']']) := by
  cases text with
  | nil => cases hopen
  | cons c rest =>
    obtain rfl := Option.some.inj hopen
    rcases List.eq_nil_or_concat rest with rfl | ⟨inner, last, rfl⟩
    · cases hclose
    · rw [List.concat_eq_append, ← List.cons_append, List.getLast?_concat] at hclose
      simpa using hclose

/-- A host has safe characters only, or it is written as it is in brackets. -/
theorem readHost_cases {host : List Char} {out : String} (h : Url.readHost host = .ok out) :
    (∀ c ∈ out.toList, isHostSafe c = true) ∨
      (host = '[' :: (out.toList ++ [']']) ∧ ':' ∈ out.toList) := by
  unfold Url.readHost at h
  dsimp only at h
  split at h
  · split at h
    · rename_i hfour
      cases h
      left
      simpa using isHostSafe_of_isFour hfour
    · cases h
  · split at h
    · rename_i hbrackets
      split at h
      · rename_i height
        cases h
        right
        simp only [Bool.and_eq_true, decide_eq_true_eq] at hbrackets
        rw [String.toList_ofList]
        refine ⟨?_, colon_mem_of_isEight height⟩
        exact eq_of_brackets hbrackets.1 hbrackets.2
      · cases h
    · split at h
      · rw [mapError_eq_ok, map_eq_ok] at h
        obtain ⟨encoded, hencoded, rfl⟩ := h
        left
        intro c hc
        rw [String.toList_ofList] at hc
        rcases of_mem_encodeWith hencoded hc with ⟨-, hsafe⟩ | rfl | hc
        · exact hsafe
        · rfl
        · exact isHostSafe_of_isNameChar (DomainName.isNameChar_of_isAlphanum hc)
      · split at h
        · rename_i name hname
          cases h
          left
          intro c hc
          rw [String.toList_ofList] at hc
          exact isHostSafe_of_isNameChar (DomainName.mem_encode hname hc)
        · cases h

/-- A host of safe characters is read as it is, up to the case of its letters. -/
theorem readHost_of_safe {host : List Char} {out : String}
    (hsafe : ∀ c ∈ host, isHostSafe c = true) (h : Url.readHost host = .ok out) :
    lowerAscii out = lowerAscii (String.ofList host) := by
  unfold Url.readHost at h
  dsimp only at h
  split at h
  · split at h
    · cases h
      rfl
    · cases h
  · split at h
    · rename_i hbrackets
      exfalso
      simp only [Bool.and_eq_true, decide_eq_true_eq] at hbrackets
      exact absurd (hsafe '[' (List.mem_of_head? hbrackets.1)) (by decide)
    · split at h
      · rw [mapError_eq_ok, map_eq_ok] at h
        obtain ⟨encoded, hencoded, rfl⟩ := h
        have hlower : ∀ c ∈ host.map Char.toLower, isHostSafe c = true := by
          intro c hc
          obtain ⟨d, hd, rfl⟩ := List.mem_map.mp hc
          exact isHostSafe_toLower (hsafe d hd)
        rw [encodeWith_of_safe hlower, Except.ok.injEq] at hencoded
        rw [← hencoded, lowerAscii, lowerAscii, String.toList_ofList, String.toList_ofList,
          List.map_map]
        congr 1
        exact List.map_congr_left fun c _ => Text.toLower_toLower c
      · rename_i hforeign
        exfalso
        refine hforeign (List.all_eq_true.mpr fun c hc => ?_)
        simpa using toNat_of_isHostSafe (hsafe c hc)

/-! ### Reading a place again -/

namespace Url

theorem at_notMem_splitUser (authority : List Char) : '@' ∉ (splitUser authority).2 := by
  intro h
  have hmem : '@' ∈ authority.reverse.takeWhile (· ≠ '@') := List.mem_reverse.mp h
  simpa using List.mem_takeWhile_imp hmem

/-- The location is what follows the last at sign. -/
theorem splitUser_append {front location : List Char} (hat : '@' ∉ location)
    (hfront : front = [] ∨ front.getLast? = some '@') :
    (splitUser (front ++ location)).2 = location := by
  have hlocation : ∀ c ∈ location.reverse, decide (c ≠ '@') = true := by
    intro c hc
    have hne : c ≠ '@' := by
      rintro rfl
      exact hat (List.mem_reverse.mp hc)
    simpa using hne
  have hrest : front.reverse.takeWhile (· ≠ '@') = [] := by
    rcases hfront with rfl | hlast
    · rfl
    · rw [← List.head?_reverse] at hlast
      cases hreverse : front.reverse with
      | nil => rfl
      | cons c rest =>
        rw [hreverse, List.head?_cons, Option.some.injEq] at hlast
        rw [List.takeWhile_cons_of_neg (by simp [hlast])]
  show ((front ++ location).reverse.takeWhile (· ≠ '@')).reverse = location
  rw [List.reverse_append, List.takeWhile_append_of_pos hlocation, hrest, List.append_nil,
    List.reverse_reverse]

theorem isPrefix_splitHost (location : List Char) : (splitHost location).1 <+: location := by
  simp only [splitHost]
  split
  · rw [← List.reverse_suffix, List.reverse_reverse]
    exact List.dropWhile_suffix _
  · exact List.takeWhile_prefix _

/-- A host without a bracket ends in front of the colon. -/
theorem splitHost_plain {host tail : List Char} (hopen : '[' ∉ host) (hcolon : ':' ∉ host)
    (htail : tail = [] ∨ tail.head? = some ':') : (splitHost (host ++ tail)).1 = host := by
  have hplain : (host ++ tail).head? ≠ some '[' := by
    intro hhead
    cases host with
    | nil => rcases htail with rfl | htail <;> simp_all
    | cons c rest => simp_all
  have hhost : ∀ c ∈ host, decide (c ≠ ':') = true := by
    intro c hc
    have hne : c ≠ ':' := by
      rintro rfl
      exact hcolon hc
    simpa using hne
  have hrest : tail.takeWhile (· ≠ ':') = [] := by
    rcases htail with rfl | htail
    · rfl
    · cases tail with
      | nil => rfl
      | cons c rest => rw [List.takeWhile_cons_of_neg (by simpa using htail)]
  simp only [splitHost, hplain, decide_false, Bool.false_and, Bool.false_eq_true, if_false]
  rw [List.takeWhile_append_of_pos hhost, hrest, List.append_nil]

/-- A host in brackets ends with the last of them. -/
theorem splitHost_bracketed {inner tail : List Char} (htail : ']' ∉ tail) :
    (splitHost ('[' :: (inner ++ [']']) ++ tail)).1 = '[' :: (inner ++ [']']) := by
  have hdrop : ('[' :: (inner ++ [']']) ++ tail).reverse.dropWhile (· ≠ ']') =
      ('[' :: (inner ++ [']'])).reverse := by
    rw [List.reverse_append, List.dropWhile_append_of_pos]
    · simp
    · intro c hc
      have hne : c ≠ ']' := by
        rintro rfl
        exact htail (List.mem_reverse.mp hc)
      simpa using hne
  simp only [splitHost, hdrop, List.reverse_reverse]
  simp

/-- The number after a host, as it stands in an address. -/
def numberText (number : Option Int) : List Char :=
  match number with
  | none => []
  | some n => ':' :: (toString n).toList

theorem numberText_head (number : Option Int) :
    numberText number = [] ∨ (numberText number).head? = some ':' := by
  cases number with
  | none => exact .inl rfl
  | some n => exact .inr rfl

theorem of_mem_numberText {number : Option Int} {c : Char} (h : c ∈ numberText number) :
    c = ':' ∨ c = '-' ∨ c.isDigit = true := by
  cases number with
  | none => cases h
  | some n => exact (List.mem_cons.mp h).imp_right Text.mem_toString

theorem location_eq (url : Url) : url.location.toList =
    (if ':' ∈ url.host.toList then '[' :: (url.host.toList ++ [']']) else url.host.toList) ++
      numberText url.number := by
  unfold location numberText
  by_cases hcolon : ':' ∈ url.host.toList
  · cases url.number <;> simp [hcolon]
  · cases url.number <;> simp [hcolon]

theorem authority_eq (url : Url) : ∃ front, url.authority.toList = front ++ url.location.toList ∧
    (front = [] ∨ front.getLast? = some '@') := by
  unfold authority
  by_cases huser : url.user = ""
  · exact ⟨[], by simp [huser], .inl rfl⟩
  · exact ⟨url.user.toList ++ ['@'], by simp [huser], .inr List.getLast?_concat⟩

theorem readHost_of_placeOf {scheme authority : List Char} {place : String × String × Option Int}
    (h : placeOf scheme authority = .ok place) :
    readHost (splitHost (splitUser authority).2).1 = .ok place.2.1 := by
  unfold placeOf at h
  dsimp only at h
  obtain ⟨user, -, h⟩ := bind_eq_ok.mp h
  obtain ⟨host, hhost, h⟩ := bind_eq_ok.mp h
  obtain ⟨number, -, h⟩ := bind_eq_ok.mp h
  cases h
  exact hhost

theorem at_notMem_location {url : Url} (h : '@' ∉ url.host.toList) : '@' ∉ url.location.toList := by
  rw [location_eq, List.mem_append, not_or]
  constructor
  · split
    · simpa using h
    · exact h
  · intro hat
    rcases of_mem_numberText hat with hat | hat | hat
    · exact absurd hat (by decide)
    · exact absurd hat (by decide)
    · exact absurd hat (by decide)

/-- **The text of a place is read as the same host**, up to the case of its letters. -/
theorem host_of_placeOf {scheme authority scheme' : List Char} {url : Url}
    {place : String × String × Option Int} (hread : placeOf scheme authority = .ok url.place)
    (hagain : placeOf scheme' url.authority.toList = .ok place) :
    lowerAscii place.2.1 = lowerAscii url.host := by
  obtain ⟨front, hfront, hlast⟩ := url.authority_eq
  have hhost : readHost (splitHost (splitUser authority).2).1 = .ok url.host :=
    readHost_of_placeOf hread
  have hhost' := readHost_of_placeOf hagain
  rcases readHost_cases hhost with hsafe | ⟨hbrackets, hcolon⟩
  · have hnot : ∀ c, isHostSafe c = false → c ∉ url.host.toList := by
      intro c hc hmem
      rw [hsafe c hmem] at hc
      cases hc
    have hcolon := hnot ':' (by decide)
    rw [hfront, splitUser_append (at_notMem_location (hnot '@' (by decide))) hlast, location_eq,
      if_neg hcolon, splitHost_plain (hnot '[' (by decide)) hcolon (numberText_head _)] at hhost'
    rw [readHost_of_safe hsafe hhost', String.ofList_toList]
  · have hat : '@' ∉ url.host.toList := by
      intro hmem
      refine at_notMem_splitUser authority ((isPrefix_splitHost _).subset ?_)
      rw [hbrackets]
      simp [hmem]
    have hclose : ']' ∉ numberText url.number := by
      intro hmem
      rcases of_mem_numberText hmem with hmem | hmem | hmem
      · exact absurd hmem (by decide)
      · exact absurd hmem (by decide)
      · exact absurd hmem (by decide)
    rw [hfront, splitUser_append (at_notMem_location hat) hlast, location_eq, if_pos hcolon,
      splitHost_bracketed hclose, ← hbrackets, hhost, Except.ok.injEq] at hhost'
    rw [← hhost']

/-! ### Links at a base -/

theorem scheme_reread {scheme authority path authority' path' : List Char}
    {query fragment query' fragment' : Option (List Char)} {url next : Url}
    (h : ofParts scheme authority path query fragment = .ok url)
    (hnext : ofParts url.scheme.toList authority' path' query' fragment' = .ok next) :
    next.scheme = url.scheme := by
  have hscheme := (ofParts_eq_ok h).1
  rw [(ofParts_eq_ok hnext).1, hscheme, String.toList_ofList, List.map_map]
  congr 1
  exact List.map_congr_left fun c _ => Text.toLower_toLower c

/-- A base address is put together from parts. -/
theorem parts_of_parseBase {text : String} {base : Url} (h : parseBase text = .ok base) :
    ∃ scheme authority path query fragment,
      ofParts scheme authority path query fragment = .ok base := by
  obtain ⟨url, hparse, h⟩ := bind_eq_ok.mp h
  dsimp only at h
  split at h
  · cases h
    unfold parse at hparse
    split at hparse
    · cases hparse
    · dsimp only at hparse
      split at hparse
      · cases hparse
      · exact ⟨_, _, _, _, _, hparse⟩
  · exact ⟨_, _, _, _, _, withTarget_eq_ok h⟩

/-- **A link is an address by itself, or it leads to the scheme and the host of its base.** -/
theorem resolve_cases {text : String} {base url : Url} {link : String}
    (hbase : parseBase text = .ok base) (h : base.resolve link = .ok url) :
    (parse link.toList = .ok url ∧ url.isAbsolute = true) ∨
      (url.scheme = base.scheme ∧ lowerAscii url.host = lowerAscii base.host) := by
  obtain ⟨relative, hparse, h⟩ := bind_eq_ok.mp h
  split at h
  · rename_i habsolute
    cases h
    exact .inl ⟨hparse, habsolute⟩
  · right
    obtain ⟨scheme, authority, path, query, fragment, hparts⟩ := parts_of_parseBase hbase
    have htarget := withTarget_eq_ok h
    have hhost := host_of_placeOf (ofParts_eq_ok hparts).2.1 (ofParts_eq_ok htarget).2.1
    exact ⟨scheme_reread hparts htarget, hhost⟩

/-- A link that starts with a slash is no address by itself. -/
theorem not_isAbsolute_local {link : String} {url : Url} (hlink : link.toList.head? = some '/')
    (h : parse link.toList = .ok url) : url.isAbsolute = false := by
  rw [isAbsolute, scheme_of_local hlink h]
  rfl

end Url

end Indicator.Web
