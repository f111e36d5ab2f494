import Indicator.Proofs.Outcome
import Indicator.Proofs.Text.Case
import Indicator.Proofs.Text.Punycode
import Indicator.Proofs.Text.Whole
import Indicator.Web.DomainName

/-!
# The letters of a name in ASCII

Which characters stand in the name of a host once it is in ASCII: letters, digits, hyphens and the
dots between labels, whatever script the name was in.

* `mem_encode`: **a name in ASCII has no other characters.**
-/

namespace Indicator.Web.DomainName

/-- The characters that stand in a name in ASCII. -/
def isNameChar (c : Char) : Bool := c.isAlphanum || c = '-' || c = '.'

theorem toNat_of_isNameChar {c : Char} (h : isNameChar c = true) : c.toNat < 0x80 := by
  simp only [isNameChar, Bool.or_eq_true, decide_eq_true_eq] at h
  rcases h with (h | rfl) | rfl
  · exact Text.toNat_of_isAlphanum h
  · decide
  · decide

/-- The characters of ASCII that a label may hold anywhere. -/
def plainRanges : List (Nat × Nat × Nat) := [(0x2D, 0x2D, 1), (0x30, 0x39, 1), (0x61, 0x7A, 1)]

theorem isNameChar_of_isPlain {c : Char} (hc : c.toNat < 0x80) (h : isPlain c = true) :
    isNameChar c = true := by
  have hlow : (Text.labelRanges.all fun range =>
      decide (0x80 ≤ range.1) || plainRanges.contains range) = true := by
    decide +kernel
  have hall : ∀ n < 0x80, (plainRanges.any fun range =>
      range.1 ≤ (Char.ofNat n).toNat && (Char.ofNat n).toNat ≤ range.2.1) = true →
      isNameChar (Char.ofNat n) = true := by
    decide +kernel
  obtain ⟨range, hmem, hrange⟩ := List.any_eq_true.mp h
  simp only [Bool.and_eq_true, decide_eq_true_eq] at hrange
  have hplain := List.all_eq_true.mp hlow range hmem
  rw [Bool.or_eq_true, decide_eq_true_eq, List.contains_iff_mem] at hplain
  have hmem := hplain.resolve_left (by omega)
  refine Text.forall_ascii (p := fun c => (plainRanges.any fun range =>
    range.1 ≤ c.toNat && c.toNat ≤ range.2.1) = true → isNameChar c = true) hall hc ?_
  exact List.any_eq_true.mpr ⟨range, hmem, by simpa using hrange.1⟩

theorem not_isContextual_ascii {c : Char} (hc : c.toNat < 0x80) : isContextual c = false := by
  have hall : ∀ n < 0x80, isContextual (Char.ofNat n) = false := by decide +kernel
  exact Text.forall_ascii (p := fun c => isContextual c = false) hall hc

/-! ### Labels -/

/-- The characters of ASCII in a label that was checked. -/
theorem mem_checkChars {label : String} {before rest : List Char}
    (h : checkChars label before rest = .ok ()) {c : Char} (hmem : c ∈ rest)
    (hc : c.toNat < 0x80) : isNameChar c = true := by
  induction rest generalizing before with
  | nil => cases hmem
  | cons d rest ih =>
    rw [checkChars] at h
    by_cases hplain : isPlain d
    · rw [if_pos hplain] at h
      rcases List.mem_cons.mp hmem with rfl | hmem
      · exact isNameChar_of_isPlain hc hplain
      · exact ih h hmem
    · rw [if_neg hplain] at h
      have hother : c ≠ d → c ∈ rest := fun hne => (List.mem_cons.mp hmem).resolve_left hne
      split at h
      · rename_i hjoiner
        split at h
        · refine ih h (hother ?_)
          rintro rfl
          rcases hjoiner with rfl | rfl
          · exact absurd hc (by decide)
          · exact absurd hc (by decide)
        · cases h
      · split at h
        · rename_i hcontextual
          split at h
          · refine ih h (hother ?_)
            rintro rfl
            rw [not_isContextual_ascii hc] at hcontextual
            cases hcontextual
          · cases h
        · cases h

theorem checkChars_of_checkLabel {label : List Char} (h : checkLabel label = .ok ()) :
    checkChars (String.ofList label) [] label = .ok () := by
  simp only [checkLabel] at h
  iterate 6
    split at h
    · cases h
  obtain ⟨_, hchars, _⟩ := bind_eq_ok.mp h
  exact hchars

/-- The characters of ASCII in a label. -/
theorem mem_checkLabel {label : List Char} (h : checkLabel label = .ok ()) {c : Char}
    (hmem : c ∈ label) (hc : c.toNat < 0x80) : isNameChar c = true :=
  mem_checkChars (checkChars_of_checkLabel h) hmem hc

theorem isNameChar_of_toLower {c : Char} (hc : c.toNat < 0x80)
    (h : isNameChar c.toLower = true) : isNameChar c = true := by
  have hall : ∀ n < 0x80, isNameChar (Char.ofNat n).toLower = true →
      isNameChar (Char.ofNat n) = true := by decide +kernel
  exact Text.forall_ascii (p := fun c => isNameChar c.toLower = true → isNameChar c = true)
    hall hc h

theorem toNat_toLower {c : Char} (hc : c.toNat < 0x80) : c.toLower.toNat < 0x80 := by
  have hall : ∀ n < 0x80, (Char.ofNat n).toLower.toNat < 0x80 := by decide +kernel
  exact Text.forall_ascii (p := fun c => c.toLower.toNat < 0x80) hall hc

theorem charOfCode_toUInt8 {c : Char} (hc : c.toNat < 0x80) :
    Text.charOfCode c.toUInt8.toNat = c := by
  have hall : ∀ n < 0x80, Text.charOfCode (Char.ofNat n).toUInt8.toNat = Char.ofNat n := by
    decide +kernel
  exact Text.forall_ascii (p := fun c => Text.charOfCode c.toUInt8.toNat = c) hall hc

theorem isNameChar_of_isAlphanum {c : Char} (h : c.isAlphanum = true) : isNameChar c = true := by
  rw [isNameChar, h]
  rfl

theorem isNameChar_of_mem_mark {c : Char} (h : c ∈ mark) : isNameChar c = true := by
  have hall : mark.all isNameChar = true := by decide
  exact List.all_eq_true.mp hall c h

/-- The characters of a label in ASCII, which may stand for one that is not. -/
theorem mem_checkAscii {label : List Char} (hascii : ∀ c ∈ label, c.toNat < 0x80)
    (h : checkAscii label = .ok ()) {c : Char} (hmem : c ∈ label) : isNameChar c = true := by
  refine isNameChar_of_toLower (hascii c hmem) ?_
  have hmem : c.toLower ∈ label.map Char.toLower := List.mem_map_of_mem hmem
  have hascii : ∀ d ∈ label.map Char.toLower, d.toNat < 0x80 := by
    intro d hd
    obtain ⟨c, hc, rfl⟩ := List.mem_map.mp hd
    exact toNat_toLower (hascii c hc)
  unfold checkAscii at h
  dsimp only at h
  generalize label.map Char.toLower = lowered at h hmem hascii
  generalize c.toLower = d at hmem
  split at h
  · rename_i hmark
    obtain ⟨code, rfl⟩ := List.isPrefixOf_iff_prefix.mp hmark
    rw [List.drop_left] at h
    split at h
    · cases h
    · split at h
      · cases h
      · split at h
        · cases h
        · rename_i text hdecode
          rcases List.mem_append.mp hmem with hd | hd
          · exact isNameChar_of_mem_mark hd
          · have hdascii := hascii d (List.mem_append_right _ hd)
            obtain ⟨-, hcode⟩ := Text.Punycode.mem_of_decode hdecode (List.mem_map_of_mem hd)
            rw [charOfCode_toUInt8 hdascii] at hcode
            rcases hcode with hcode | hcode | hcode
            · exact mem_checkLabel h hcode hdascii
            · have hhyphen : d = '-' := by
                rw [← charOfCode_toUInt8 hdascii, hcode]
                rfl
              rw [hhyphen]
              rfl
            · exact isNameChar_of_isAlphanum hcode
  · exact mem_checkLabel h hmem (hascii d hmem)

/-- The characters of a label once it is in ASCII. -/
theorem mem_encodeLabel {label out : List Char} (h : encodeLabel label = .ok out) {c : Char}
    (hmem : c ∈ out) : isNameChar c = true := by
  simp only [encodeLabel] at h
  split at h
  · rename_i hascii
    obtain ⟨_, hchecked, h⟩ := bind_eq_ok.mp h
    obtain ⟨encoded, hencoded, h⟩ := bind_eq_ok.mp h
    cases hencoded
    split at h
    · cases h
    · cases h
      exact mem_checkAscii (by simpa using hascii) hchecked hmem
  · obtain ⟨_, hchecked, h⟩ := bind_eq_ok.mp h
    obtain ⟨encoded, hencoded, h⟩ := bind_eq_ok.mp h
    cases hencoded
    split at h
    · cases h
    · cases h
      rcases List.mem_append.mp hmem with hc | hc
      · exact isNameChar_of_mem_mark hc
      · rcases Text.Punycode.mem_encode hc with ⟨hc, hascii⟩ | rfl | hc
        · exact mem_checkLabel hchecked hc hascii
        · rfl
        · exact isNameChar_of_isAlphanum hc

/-! ### Names -/

theorem mem_mapM_encodeLabel {labels encoded : List (List Char)}
    (h : labels.mapM encodeLabel = .ok encoded) :
    ∀ label ∈ encoded, ∀ c ∈ label, isNameChar c = true := by
  induction labels generalizing encoded with
  | nil =>
    cases h
    simp
  | cons label labels ih =>
    rw [List.mapM_cons] at h
    obtain ⟨first, hfirst, h⟩ := bind_eq_ok.mp h
    obtain ⟨rest, hrest, h⟩ := bind_eq_ok.mp h
    cases h
    intro other hother c hc
    rcases List.mem_cons.mp hother with rfl | hother
    · exact mem_encodeLabel hfirst hc
    · exact ih hrest other hother c hc

theorem mem_intercalate {separator : List Char} {parts : List (List Char)} {c : Char}
    (h : c ∈ separator.intercalate parts) : c ∈ separator ∨ ∃ part ∈ parts, c ∈ part := by
  induction parts with
  | nil => cases h
  | cons part parts ih =>
    by_cases hparts : parts = []
    · rw [hparts, List.intercalate_singleton] at h
      exact .inr ⟨part, List.mem_cons_self, h⟩
    · rw [List.intercalate_cons_of_ne_nil hparts, List.mem_append, List.mem_append] at h
      rcases h with (h | h) | h
      · exact .inr ⟨part, List.mem_cons_self, h⟩
      · exact .inl h
      · rcases ih h with h | ⟨other, hother, h⟩
        · exact .inl h
        · exact .inr ⟨other, List.mem_cons_of_mem _ hother, h⟩

/-- **A name in ASCII** has letters, digits, hyphens and dots only. -/
theorem mem_encode {name out : List Char} (h : encode name = .ok out) {c : Char} (hmem : c ∈ out) :
    isNameChar c = true := by
  unfold encode at h
  obtain ⟨⟨labels, dotted⟩, -, h⟩ := bind_eq_ok.mp h
  obtain ⟨encoded, hencoded, h⟩ := bind_eq_ok.mp h
  have hout : ['.'].intercalate encoded ++ (if dotted then ['.'] else []) = out := by
    dsimp only at h
    by_cases hlong : (if dotted then maxName else maxName - 1) <
        (['.'].intercalate encoded ++ if dotted then ['.'] else []).length
    · rw [if_pos hlong] at h
      cases h
    · rw [if_neg hlong] at h
      exact Except.ok.inj h
  have hdot : ∀ c ∈ ['.'], isNameChar c = true := by
    intro c hc
    rw [List.mem_singleton.mp hc]
    rfl
  rw [← hout] at hmem
  rcases List.mem_append.mp hmem with hc | hc
  · rcases mem_intercalate hc with hc | ⟨label, hlabel, hc⟩
    · exact hdot c hc
    · exact mem_mapM_encodeLabel hencoded label hlabel c hc
  · split at hc
    · exact hdot c hc
    · cases hc

end Indicator.Web.DomainName
