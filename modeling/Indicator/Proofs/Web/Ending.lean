import Indicator.Proofs.Web.Place

/-!
# How a path ends

The address of a link at a base ends as the link does, unless the base has a query, to which the
link would be appended.

* `getLast?_decodeUtf8Lenient`: an octet of ASCII at the end is read as a character.
* `getLast?_plainPath`: a path is shown with the letter at its end, unless that is a digit.
* `path_of_resolve`: **the address of a link ends with the name that the link ends with.**
-/

namespace Indicator

/-! ### The last octet -/

namespace Text

theorem Lead.lowest_of_of {surrogates : Bool} {b : UInt8} {state : Pending}
    (h : Lead.of surrogates b = .pending state) : 0x80 ≤ state.lowest.toNat := by
  unfold Lead.of at h
  dsimp only at h
  split_ifs at h
  all_goals simp only [Lead.pending.injEq] at h
  all_goals
    subst h
    dsimp only
    decide

theorem Pending.lowest_of_next {state next : Pending} {b : UInt8}
    (h : state.next b = .pending next) : 0x80 ≤ next.lowest.toNat := by
  unfold Pending.next at h
  split at h
  · dsimp only at h
    split at h
    · cases h
    · simp only [Lead.pending.injEq] at h
      subst h
      dsimp only
      decide
  · cases h

/-- An octet that cannot continue a character is read afresh. -/
theorem readUtf8_of_bad {surrogates : Bool} {begun : Pending} {b : UInt8} (h : begun.next b = .bad)
    (rest : List UInt8) : readUtf8 surrogates (some begun) (b :: rest) =
      none :: readUtf8 surrogates none (b :: rest) := by
  simp only [readUtf8, h]

/-- An octet of ASCII is a character by itself, whatever came before it. -/
theorem getLast?_readUtf8 {surrogates : Bool} {b : UInt8} (hb : b.toNat < 0x80)
    {state : Option Pending} (hstate : ∀ begun, state = some begun → 0x80 ≤ begun.lowest.toNat)
    (octets : List UInt8) :
    (readUtf8 surrogates state (octets ++ [b])).getLast? = some (some (charOfCode b.toNat)) := by
  induction octets generalizing state with
  | nil =>
    have hlead : Lead.of surrogates b = .char (charOfCode b.toNat) := if_pos hb
    cases state with
    | none => simp [readUtf8, hlead]
    | some begun =>
      have hlow := hstate begun rfl
      have hbad : begun.next b = .bad := by
        refine if_neg fun hbounds => ?_
        have hle := UInt8.le_iff_toNat_le.mp hbounds.1
        omega
      simp [readUtf8, hbad, hlead]
  | cons a octets ih =>
    have hcomplete : ∀ c : Option Char,
        (c :: readUtf8 surrogates none (octets ++ [b])).getLast? =
          some (some (charOfCode b.toNat)) := by
      intro c
      rw [List.getLast?_cons, ih (by simp), Option.getD_some]
    have hbegun : ∀ begun : Pending, 0x80 ≤ begun.lowest.toNat →
        (readUtf8 surrogates (some begun) (octets ++ [b])).getLast? =
          some (some (charOfCode b.toNat)) := by
      intro begun hlow
      refine ih fun other hother => ?_
      rw [← Option.some.inj hother]
      exact hlow
    have hfresh : (readUtf8 surrogates none (a :: (octets ++ [b]))).getLast? =
        some (some (charOfCode b.toNat)) := by
      rw [readUtf8]
      cases hlead : Lead.of surrogates a with
      | char c => exact hcomplete (some c)
      | pending begun => exact hbegun begun (Lead.lowest_of_of hlead)
      | bad => exact hcomplete none
    cases state with
    | none => exact hfresh
    | some begun =>
      rw [List.cons_append]
      cases hnext : begun.next a with
      | char c =>
        simp only [readUtf8, hnext]
        exact hcomplete (some c)
      | pending next =>
        simp only [readUtf8, hnext]
        exact hbegun next (Pending.lowest_of_next hnext)
      | bad => rw [readUtf8_of_bad hnext, List.getLast?_cons, hfresh, Option.getD_some]

theorem getLast?_decodeUtf8Lenient {b : UInt8} (hb : b.toNat < 0x80) (octets : List UInt8) :
    (decodeUtf8Lenient (octets ++ [b])).getLast? = some (charOfCode b.toNat) := by
  rw [decodeUtf8Lenient, List.getLast?_map, getLast?_readUtf8 hb (by simp)]
  rfl

end Text

namespace Web

/-! ### The last character of a path -/

theorem percentDecode_cons {c : Char} {rest : List Char}
    (h : ∀ (a b : Char) (more : List Char), c = '%' → rest = a :: b :: more → False) :
    percentDecode (c :: rest) = Text.encodeUtf8 (String.ofList [c]) ++ percentDecode rest := by
  rw [percentDecode]
  exact h

theorem percentDecode_percent {a b : Char} {rest : List Char}
    (h : ∀ high low, Text.hexValue? a = some high → Text.hexValue? b = some low → False) :
    percentDecode ('%' :: a :: b :: rest) = 37 :: percentDecode (a :: b :: rest) := by
  rw [percentDecode]
  split
  · rename_i high low hhigh hlow
    exact absurd hlow (h high low hhigh)
  · rfl

/-- A last character that is no digit is read by itself. -/
theorem percentDecode_concat {c : Char} (hdigit : Text.hexValue? c = none) (text : List Char) :
    percentDecode (text ++ [c]) = percentDecode text ++ Text.encodeUtf8 (String.ofList [c]) := by
  induction text using percentDecode.induct with
  | case1 =>
    rw [List.nil_append, percentDecode_cons (by simp)]
    simp [percentDecode]
  | case2 a b rest high low hlow hhigh ih =>
    simp only [List.cons_append, percentDecode, hlow, hhigh, ih]
  | case3 a b rest hnone ih =>
    simp only [List.cons_append] at ih ⊢
    rw [percentDecode_percent hnone, percentDecode_percent hnone, ih, List.cons_append]
  | case4 d rest hother ih =>
    rw [percentDecode_cons hother, List.append_assoc, ← ih, List.cons_append]
    by_cases hshort : ∃ a, d = '%' ∧ rest = [a]
    · -- What follows the percent sign is one character and the last one, which is no digit.
      obtain ⟨a, rfl, rfl⟩ := hshort
      have hmark : Text.encodeUtf8 (String.ofList ['%']) = [37] := by decide +kernel
      have hnone : ∀ high low, Text.hexValue? a = some high → Text.hexValue? c = some low →
          False := by
        simp [hdigit]
      rw [List.singleton_append, percentDecode_percent hnone, hmark, List.singleton_append]
    · refine percentDecode_cons fun a b more hd hrest => ?_
      rcases rest with - | ⟨e, - | ⟨f, rest⟩⟩
      · cases hrest
      · exact hshort ⟨e, hd, rfl⟩
      · exact hother e f rest hd rfl

namespace Url

theorem getLast?_plainPath {url : Url} {front : List Char} {c : Char}
    (hpath : url.path.toList = front ++ [c]) (hdigit : Text.hexValue? c = none) (b : UInt8)
    (hoctet : Text.encodeUtf8 (String.ofList [c]) = [b]) (hb : b.toNat < 0x80) :
    url.plainPath.toList.getLast? = some (Text.charOfCode b.toNat) := by
  have hne : url.path ≠ "" := by
    intro hempty
    rw [hempty] at hpath
    simp at hpath
  rw [plainPath, if_neg hne, hpath, percentDecode_concat hdigit, hoctet, String.toList_ofList,
    Text.getLast?_decodeUtf8Lenient hb]

/-- **A name**, of characters that a path holds as they are and that have no meaning in it. -/
def IsName (text : List Char) : Prop := ∀ c ∈ text, isPathSafe c = true ∧ c ≠ '/' ∧ c ≠ '.'

instance (text : List Char) : Decidable (IsName text) :=
  List.decidableBAll (fun c => isPathSafe c = true ∧ c ≠ '/' ∧ c ≠ '.') text

/-- A path without dot segments ends with the name that it is given. -/
theorem normalPath_append {name : List Char} (hname : IsName name) (front : List Char) :
    ∃ kept, normalPath (front ++ '/' :: name) = kept ++ name := by
  have hslash : '/' ∉ name := fun hmem => (hname '/' hmem).2.1 rfl
  have hdot : '.' ∉ name := fun hmem => (hname '.' hmem).2.2 rfl
  have hend : ∀ segments : List (List Char),
      ∃ kept, List.intercalate ['/'] (segments ++ [name]) = kept ++ name := by
    intro segments
    induction segments with
    | nil => exact ⟨[], by simp⟩
    | cons segment segments ih =>
      obtain ⟨kept, hkept⟩ := ih
      rw [List.cons_append, List.intercalate_cons_of_ne_nil (by simp), hkept]
      exact ⟨segment ++ ['/'] ++ kept, by simp⟩
  rw [normalPath, splitAt_append, splitAt_of_notMem hslash, resolveDots_append_singleton]
  · exact hend _
  · rintro rfl
    simp at hdot
  · rintro rfl
    simp at hdot

theorem path_of_parts {scheme authority front name : List Char}
    {query fragment : Option (List Char)} {url : Url}
    (h : ofParts scheme authority (front ++ '/' :: name) query fragment = .ok url)
    (hname : IsName name) : ∃ kept, url.path.toList = kept ++ name := by
  obtain ⟨-, -, ⟨whole, hwhole, hpath⟩, -⟩ := ofParts_eq_ok h
  obtain ⟨kept, rfl⟩ : ∃ kept, whole = kept ++ name := by
    rw [hwhole]
    split
    · exact normalPath_append hname front
    · exact ⟨front ++ ['/'], by simp⟩
  obtain ⟨first, rest, -, hrest, hout⟩ := encodeWith_append (encodePart_eq_ok.mp hpath)
  rw [encodeWith_of_safe fun c hc => (hname c hc).1, Except.ok.injEq] at hrest
  exact ⟨first, by rw [hout, hrest]⟩

theorem question_notMem_path {text : String} {base : Url} (h : parseBase text = .ok base) :
    '?' ∉ base.path.toList := by
  obtain ⟨scheme, authority, path, query, fragment, hparts⟩ := parts_of_parseBase h
  obtain ⟨-, -, ⟨whole, -, hpath⟩, -⟩ := ofParts_eq_ok hparts
  intro hmark
  rcases of_mem_encodeWith (encodePart_eq_ok.mp hpath) hmark with ⟨-, hsafe⟩ | hpercent | hdigit
  · exact absurd hsafe (by decide)
  · exact absurd hpercent (by decide)
  · exact absurd hdigit (by decide)

/-- **The address of a link ends as the link does**, at a base without a query. -/
theorem path_of_resolve {text link : String} {base url relative : Url} {front name : List Char}
    (hbase : parseBase text = .ok base) (hquery : base.query = none)
    (hparse : parse link.toList = .ok relative) (hlocal : relative.isAbsolute = false)
    (htarget : relative.target.toList.dropWhile (· = '/') = front ++ '/' :: name)
    (hmark : '?' ∉ front ++ '/' :: name) (hname : IsName name) (h : base.resolve link = .ok url) :
    ∃ kept, url.path.toList = kept ++ name := by
  have hplain : '?' ∉ base.target.toList := by
    rw [target, hquery, ledBy, String.append_empty]
    split
    · decide
    · exact question_notMem_path hbase
  have hparts : base.withTarget (base.target.toList ++ (front ++ '/' :: name)) = .ok url := by
    rw [resolve, hparse] at h
    simpa only [bind, Except.bind, hlocal, htarget, Bool.false_eq_true, if_false] using h
  have hwhole : '?' ∉ base.target.toList ++ (front ++ '/' :: name) := by
    rw [List.mem_append, not_or]
    exact ⟨hplain, hmark⟩
  have hplaced := withTarget_eq_ok hparts
  rw [splitFirst_of_notMem hwhole, ← List.append_assoc] at hplaced
  exact path_of_parts hplaced hname

end Url

end Web

end Indicator
