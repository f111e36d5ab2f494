import Indicator.Text.Case
import Indicator.Text.Encodable

/-!
# Texts without lone surrogates

A text without lone surrogates can be written in UTF-8, and what the engine makes of such texts are
such texts again: put together, cut into words, brought to lower case or put between quotation
marks. A text with one of the characters that stand for surrogates is none of them.

* `isWhole_append`, `isWhole_intercalate`: texts put together.
* `isWhole_lower`, `isWhole_joinWords`, `isWhole_quoted`: texts made of one text.
-/

namespace Indicator.Text

/-! ### Characters -/

/-- What holds of the characters of the parts and of the separator holds of all characters. -/
theorem forall_mem_intercalate {P : Char → Prop} {separator : String} {parts : List String}
    (hseparator : ∀ c ∈ separator.toList, P c) (h : ∀ part ∈ parts, ∀ c ∈ part.toList, P c) :
    ∀ c ∈ (separator.intercalate parts).toList, P c := by
  induction parts with
  | nil => simp
  | cons part parts ih =>
    have hpart := h part List.mem_cons_self
    have hrest := ih fun other hother => h other (List.mem_cons_of_mem _ hother)
    cases parts with
    | nil =>
      rw [String.intercalate_singleton]
      exact hpart
    | cons next parts =>
      simp only [String.intercalate_cons_cons, String.toList_append, List.forall_mem_append]
      exact ⟨⟨hpart, hseparator⟩, hrest⟩

theorem mem_toString {n : Int} {c : Char} (h : c ∈ (toString n).toList) :
    c = '-' ∨ c.isDigit = true := by
  have hdigits : ∀ k : Nat, c ∈ (toString k).toList → c.isDigit = true := by
    intro k hmem
    have hdigits : c ∈ Nat.toDigits 10 k := by simpa using hmem
    exact Nat.isDigit_of_mem_toDigits (by decide) (by decide) hdigits
  cases n with
  | ofNat k => exact .inr (hdigits k h)
  | negSucc k =>
    have htext : toString (Int.negSucc k) = "-" ++ toString (k + 1) := rfl
    rw [htext, String.toList_append, List.mem_append] at h
    exact h.imp (fun h => List.mem_singleton.mp h) (hdigits (k + 1))

/-- Only the last planes hold the stand-ins of surrogates. -/
theorem isScalar_of_lt {c : Char} (h : c.toNat < surrogateShift + 0xD800) : isScalar c = true := by
  have hcode : c.toNat - surrogateShift < 0xD800 := by
    unfold surrogateShift at h ⊢
    omega
  have hsurrogate : isSurrogate (c.toNat - surrogateShift) = false := by
    simp only [isSurrogate, isHighSurrogate, isLowSurrogate, Bool.or_eq_false_iff,
      Bool.and_eq_false_iff, decide_eq_false_iff_not]
    omega
  simp [isScalar, surrogate?, hsurrogate]

/-- Letters and digits are in ASCII. -/
theorem toNat_of_isAlphanum {c : Char} (h : c.isAlphanum = true) : c.toNat < 0x80 := by
  have hlast : c.val ≤ 'z'.val := by
    rcases Bool.or_eq_true_iff.mp h with hletter | hdigit
    · rcases Bool.or_eq_true_iff.mp hletter with hupper | hlower
      · exact UInt32.le_trans (of_decide_eq_true hupper).2 (by decide)
      · exact of_decide_eq_true (Bool.and_eq_true_iff.mp hlower).2
    · exact UInt32.le_trans (of_decide_eq_true (Bool.and_eq_true_iff.mp hdigit).2) (by decide)
  have hcode : c.toNat ≤ 'z'.toNat := hlast
  exact Nat.lt_of_le_of_lt hcode (by decide)

theorem isScalar_of_isAlphanum {c : Char} (h : c.isAlphanum = true) : isScalar c = true :=
  isScalar_of_lt (Nat.lt_trans (toNat_of_isAlphanum h) (by decide))

theorem isScalar_of_isDigit {c : Char} (h : c.isDigit = true) : isScalar c = true :=
  isScalar_of_isAlphanum (by rw [Char.isAlphanum, h, Bool.or_true])

theorem toNat_ofNat_le (code : Nat) : (Char.ofNat code).toNat ≤ code := by
  by_cases hvalid : code.isValidChar
  · have hchar : Char.ofNat code = Char.ofNatAux code hvalid := dif_pos hvalid
    rw [hchar]
    exact Nat.le_refl code
  · have hchar : Char.ofNat code = '\x00' := dif_neg hvalid
    rw [hchar]
    exact Nat.zero_le code

/-! ### Whole texts -/

theorem isWhole_iff {text : String} : isWhole text = true ↔ ∀ c ∈ text.toList, isScalar c = true :=
  List.all_eq_true

theorem isWhole_ofList {chars : List Char} :
    isWhole (String.ofList chars) = true ↔ ∀ c ∈ chars, isScalar c = true := by
  rw [isWhole_iff, String.toList_ofList]

@[simp] theorem isWhole_append (a b : String) : isWhole (a ++ b) = (isWhole a && isWhole b) := by
  rw [isWhole, String.toList_append, List.all_append]
  rfl

theorem isWhole_intercalate {separator : String} {parts : List String}
    (hseparator : isWhole separator = true) (h : ∀ part ∈ parts, isWhole part = true) :
    isWhole (separator.intercalate parts) = true :=
  isWhole_iff.mpr (forall_mem_intercalate (isWhole_iff.mp hseparator) fun part hpart =>
    isWhole_iff.mp (h part hpart))

@[simp] theorem isWhole_toString (n : Int) : isWhole (toString n) = true := by
  refine isWhole_iff.mpr fun c hc => ?_
  rcases mem_toString hc with rfl | hdigit
  · decide
  · exact isScalar_of_isDigit hdigit

/-- A whole text can be written in UTF-8. -/
theorem check_utf8 {text : String} (h : isWhole text = true) :
    Encoding.utf8.check text = .ok text := if_pos h

/-! ### Letter case and words -/

theorem image_lt {run : CaseRun} (hrun : run ∈ lowerRuns) {code image : Nat}
    (h : run.image? code = some image) : image < surrogateShift + 0xD800 := by
  have hlast : ∀ run ∈ lowerRuns, (run.last + run.delta).toNat < surrogateShift + 0xD800 := by
    decide +kernel
  unfold CaseRun.image? at h
  split at h
  · rename_i hwithin
    obtain rfl := Option.some.inj h
    have hle : (code + run.delta).toNat ≤ (run.last + run.delta).toNat := by omega
    exact Nat.lt_of_le_of_lt hle (hlast run hrun)
  · cases h

theorem isScalar_mapThrough_lower {c : Char} (h : isScalar c = true) :
    isScalar (mapThrough lowerRuns c) = true := by
  unfold mapThrough
  split
  · rename_i image himage
    obtain ⟨run, hrun, hfound⟩ := List.exists_of_findSome?_eq_some himage
    exact isScalar_of_lt (Nat.lt_of_le_of_lt (toNat_ofNat_le image) (image_lt hrun hfound))
  · exact h

theorem isScalar_toLower {c : Char} (h : c.toNat < 0x80) : isScalar c.toLower = true := by
  have hall : ∀ n < 0x80, isScalar (Char.ofNat n).toLower = true := by decide +kernel
  have hc := hall c.toNat h
  rwa [Char.ofNat_toNat] at hc

theorem isScalar_lowerOne {c d : Char} (h : isScalar c = true) (hd : d ∈ lowerOne c) :
    isScalar d = true := by
  unfold lowerOne at hd
  split at hd
  · rename_i hascii
    obtain rfl := List.mem_singleton.mp hd
    exact isScalar_toLower hascii
  · split at hd
    · have hmarked : ∀ d ∈ ['i', '\u0307'], isScalar d = true := List.all_eq_true.mp (by decide)
      exact hmarked d hd
    · obtain rfl := List.mem_singleton.mp hd
      exact isScalar_mapThrough_lower h

theorem isScalar_lowerAfter {text before : List Char} (h : ∀ c ∈ text, isScalar c = true) :
    ∀ c ∈ lowerAfter before text, isScalar c = true := by
  induction text generalizing before with
  | nil => simp [lowerAfter]
  | cons c rest ih =>
    rw [List.forall_mem_cons] at h
    rw [lowerAfter, List.forall_mem_append]
    refine ⟨fun d hd => ?_, ih h.2⟩
    split at hd
    · obtain rfl := List.mem_singleton.mp hd
      unfold lowerSigma
      split <;> decide
    · exact isScalar_lowerOne h.1 hd

theorem isWhole_lower {text : String} (h : isWhole text = true) : isWhole (lower text) = true :=
  isWhole_ofList.mpr (isScalar_lowerAfter (isWhole_iff.mp h))

/-- The words of a text hold characters of the text only. -/
theorem mem_of_mem_words {text word : List Char} {c : Char} (hword : word ∈ words text)
    (hc : c ∈ word) : c ∈ text := by
  induction text generalizing word with
  | nil => simp [words] at hword
  | cons first rest ih =>
    unfold words at hword
    split at hword
    · exact List.mem_cons_of_mem _ (ih hword hc)
    · cases rest with
      | nil =>
        obtain rfl := List.mem_singleton.mp hword
        exact hc
      | cons next more =>
        dsimp only at hword
        split at hword
        · rcases List.mem_cons.mp hword with rfl | hword
          · exact List.mem_cons.mpr (.inl (List.mem_singleton.mp hc))
          · exact List.mem_cons_of_mem _ (ih hword hc)
        · split at hword
          · obtain rfl := List.mem_singleton.mp hword
            exact List.mem_cons.mpr (.inl (List.mem_singleton.mp hc))
          · rename_i found others hfound
            rcases List.mem_cons.mp hword with rfl | hword
            · rcases List.mem_cons.mp hc with rfl | hc
              · exact List.mem_cons_self
              · exact List.mem_cons_of_mem _ (ih (by rw [hfound]; exact List.mem_cons_self) hc)
            · exact List.mem_cons_of_mem _
                (ih (by rw [hfound]; exact List.mem_cons_of_mem _ hword) hc)

theorem isWhole_joinWords {text : String} (h : isWhole text = true) :
    isWhole (joinWords text) = true := by
  refine isWhole_intercalate (by decide) fun word hword => ?_
  obtain ⟨chars, hchars, rfl⟩ := List.mem_map.mp hword
  exact isWhole_ofList.mpr fun c hc => isWhole_iff.mp h c (mem_of_mem_words hchars hc)

/-! ### Quoted texts -/

theorem isScalar_hexDigit {n : Nat} (h : n < 16) : isScalar (hexDigit n) = true := by
  have hall : ∀ n < 16, isScalar (hexDigit n) = true := by decide
  exact hall n h

theorem isScalar_hexDigits {width n : Nat} : ∀ c ∈ hexDigits width n, isScalar c = true := by
  induction width generalizing n with
  | zero => simp [hexDigits]
  | succ width ih =>
    rw [hexDigits, List.forall_mem_append]
    refine ⟨ih, fun c hc => ?_⟩
    obtain rfl := List.mem_singleton.mp hc
    exact isScalar_hexDigit (Nat.mod_lt _ (by decide))

theorem isScalar_escapeCode (c : Char) : ∀ d ∈ escapeCode c, isScalar d = true := by
  have hmarked : ∀ (mark : Char) (width n : Nat), isScalar mark = true →
      ∀ d ∈ '\\' :: mark :: hexDigits width n, isScalar d = true := by
    intro mark width n hmark
    rw [List.forall_mem_cons, List.forall_mem_cons]
    exact ⟨by decide, hmark, isScalar_hexDigits⟩
  unfold escapeCode
  dsimp only
  split
  · exact hmarked 'x' _ _ (by decide)
  · split
    · exact hmarked 'u' _ _ (by decide)
    · exact hmarked 'U' _ _ (by decide)

/-- A character after the mark of an escape. -/
theorem isScalar_escaped {c : Char} (h : isScalar c = true) : ∀ d ∈ ['\\', c], isScalar d = true := by
  rw [List.forall_mem_cons, List.forall_mem_singleton]
  exact ⟨by decide, h⟩

theorem isScalar_escapeWithin {mark c : Char} (h : isScalar c = true) :
    ∀ d ∈ escapeWithin mark c, isScalar d = true := by
  unfold escapeWithin
  split
  · exact isScalar_escaped h
  · split
    · exact isScalar_escaped (by decide)
    · split
      · exact isScalar_escaped (by decide)
      · split
        · exact isScalar_escaped (by decide)
        · split
          · exact List.forall_mem_singleton.mpr h
          · exact isScalar_escapeCode c

theorem isWhole_quoted {text : String} (h : isWhole text = true) : isWhole (quoted text) = true := by
  have hmark : isScalar (quoteMark text.toList) = true := by
    unfold quoteMark
    split <;> decide
  unfold quoted
  dsimp only
  rw [isWhole_ofList, List.cons_append, List.forall_mem_cons, List.forall_mem_append]
  refine ⟨hmark, fun d hd => ?_, by simpa using hmark⟩
  obtain ⟨c, hc, hd⟩ := List.mem_flatMap.mp hd
  exact isScalar_escapeWithin (isWhole_iff.mp h c hc) d hd

end Indicator.Text
