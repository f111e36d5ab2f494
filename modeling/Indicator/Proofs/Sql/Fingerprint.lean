import Mathlib.Data.List.Forall2
import Indicator.Proofs.Request.Whole
import Indicator.Proofs.Text.Case

/-!
# Fingerprints

The fingerprint of a statement is taken of its words, one space between neighbours, in lower case.
How the words are laid out in the text, and the case of their ASCII letters, make no difference.

* `Laid words text`: a text is laid out from words. `words_eq_iff`: **the words of a text are those
  it is laid out from.**
* `trim_joinWords`: the words of a text, joined, have no blank at their ends.
* `SameWord`: words that are equal up to the case of ASCII letters.
* `Sql.fingerprint_congr`: **texts of the same words have the same fingerprint.**
-/

namespace Indicator.Text

/-! ### The words of a text -/

/-- **A text laid out from words**: each is a run of characters that are not blank, with a blank or
nothing after it. Any number of blanks may stand around the words. -/
inductive Laid : List (List Char) → List Char → Prop
  | nil : Laid [] []
  | blank {parts : List (List Char)} {text : List Char} {c : Char} (blank : isBlank c = true)
      (rest : Laid parts text) : Laid parts (c :: text)
  | word {parts : List (List Char)} {word text : List Char} (nonempty : word ≠ [])
      (solid : ∀ c ∈ word, isBlank c = false) (apart : ∀ c ∈ text.head?, isBlank c = true)
      (rest : Laid parts text) : Laid (word :: parts) (word ++ text)

theorem words_blank {c : Char} (h : isBlank c = true) (text : List Char) :
    words (c :: text) = words text := by
  rw [words.eq_def]
  exact if_pos h

theorem words_append {word text : List Char} (hnonempty : word ≠ [])
    (hsolid : ∀ c ∈ word, isBlank c = false) (hapart : ∀ c ∈ text.head?, isBlank c = true) :
    words (word ++ text) = word :: words text := by
  induction word with
  | nil => exact absurd rfl hnonempty
  | cons c word ih =>
    obtain ⟨hc, hword⟩ := List.forall_mem_cons.mp hsolid
    have hletter : ¬ isBlank c = true := by simp [hc]
    cases word with
    | nil =>
      cases text with
      | nil => exact if_neg hletter
      | cons next rest =>
        have hblank : isBlank next = true := hapart next rfl
        rw [List.singleton_append, words.eq_def]
        simp only [if_neg hletter, if_pos hblank]
    | cons next rest =>
      have hnext : ¬ isBlank next = true := by simp [hword next List.mem_cons_self]
      have hrest := ih (List.cons_ne_nil _ _) hword
      rw [List.cons_append] at hrest
      rw [List.cons_append, List.cons_append, words.eq_def]
      simp only [if_neg hletter, if_neg hnext, hrest]

theorem Laid.words_eq {parts : List (List Char)} {text : List Char} (h : Laid parts text) :
    words text = parts := by
  induction h with
  | nil => rfl
  | blank hblank _ ih => rw [words_blank hblank, ih]
  | word hnonempty hsolid hapart _ ih => rw [words_append hnonempty hsolid hapart, ih]

/-- A text with one more character, which joins the word that begins right after it. -/
theorem Laid.cons {parts : List (List Char)} {text : List Char} (h : Laid parts text) {c : Char}
    (hc : isBlank c = false) : ∃ parts', Laid parts' (c :: text) := by
  have hsolid : ∀ d ∈ [c], isBlank d = false := by simpa using hc
  cases h with
  | nil => exact ⟨_, .word (List.cons_ne_nil c []) hsolid (by simp) .nil⟩
  | blank hblank hrest =>
    exact ⟨_, .word (List.cons_ne_nil c []) hsolid (by simpa using hblank) (.blank hblank hrest)⟩
  | @word _ word _ _ hword hapart hrest =>
    exact ⟨_, .word (List.cons_ne_nil c word) (List.forall_mem_cons.mpr ⟨hc, hword⟩) hapart hrest⟩

theorem exists_laid (text : List Char) : ∃ parts, Laid parts text := by
  induction text with
  | nil => exact ⟨[], .nil⟩
  | cons c rest ih =>
    obtain ⟨parts, hparts⟩ := ih
    cases hblank : isBlank c with
    | true => exact ⟨parts, .blank hblank hparts⟩
    | false => exact hparts.cons hblank

/-- **The words of a text are those it is laid out from.** -/
theorem words_eq_iff {text : List Char} {parts : List (List Char)} :
    words text = parts ↔ Laid parts text := by
  constructor
  · rintro rfl
    obtain ⟨parts, hparts⟩ := exists_laid text
    rwa [hparts.words_eq]
  · exact Laid.words_eq

theorem Laid.solid {parts : List (List Char)} {text : List Char} (h : Laid parts text) :
    ∀ word ∈ parts, word ≠ [] ∧ ∀ c ∈ word, isBlank c = false := by
  induction h with
  | nil => simp
  | blank _ _ ih => exact ih
  | word hnonempty hsolid _ _ ih => exact List.forall_mem_cons.mpr ⟨⟨hnonempty, hsolid⟩, ih⟩

/-! ### The joined words -/

theorem toList_joinWords (text : String) :
    (joinWords text).toList = [' '].intercalate (words text.toList) := by
  rw [joinWords, String.toList_intercalate, List.map_map]
  have hid : String.toList ∘ String.ofList = id := funext fun _ => String.toList_ofList
  rw [hid, List.map_id]
  rfl

theorem laid_intercalate {parts : List (List Char)}
    (h : ∀ word ∈ parts, word ≠ [] ∧ ∀ c ∈ word, isBlank c = false) :
    Laid parts ([' '].intercalate parts) := by
  induction parts with
  | nil => exact .nil
  | cons word parts ih =>
    obtain ⟨⟨hnonempty, hsolid⟩, hparts⟩ := List.forall_mem_cons.mp h
    cases parts with
    | nil =>
      have hword : Laid [word] (word ++ []) := .word hnonempty hsolid (by simp) .nil
      rw [List.append_nil] at hword
      rw [List.intercalate_singleton]
      exact hword
    | cons next parts =>
      have hspace : isBlank ' ' = true := by decide
      rw [List.intercalate_cons_cons, List.append_assoc]
      exact .word hnonempty hsolid (by simpa using hspace) (.blank hspace (ih hparts))

theorem solid_ends {parts : List (List Char)}
    (h : ∀ word ∈ parts, word ≠ [] ∧ ∀ c ∈ word, isBlank c = false) :
    (∀ c ∈ ([' '].intercalate parts).head?, isBlank c = false) ∧
      ∀ c ∈ ([' '].intercalate parts).getLast?, isBlank c = false := by
  induction parts with
  | nil => simp
  | cons word parts ih =>
    obtain ⟨⟨hnonempty, hsolid⟩, hparts⟩ := List.forall_mem_cons.mp h
    cases parts with
    | nil =>
      rw [List.intercalate_singleton]
      exact ⟨fun c hc => hsolid c (List.mem_of_head? hc), fun c hc =>
        hsolid c (List.mem_of_getLast? hc)⟩
    | cons next parts =>
      have hmore : [' '].intercalate (next :: parts) ≠ [] := by
        intro hnil
        have hwords := (laid_intercalate hparts).words_eq
        rw [hnil] at hwords
        cases hwords
      rw [List.intercalate_cons_cons, List.append_assoc, List.head?_append_of_ne_nil _ hnonempty,
        ← List.append_assoc, List.getLast?_append_of_ne_nil _ hmore]
      exact ⟨fun c hc => hsolid c (List.mem_of_head? hc), (ih hparts).2⟩

theorem trimBy_of_ends {p : Char → Bool} {text : List Char} (hfirst : ∀ c ∈ text.head?, p c = false)
    (hlast : ∀ c ∈ text.getLast?, p c = false) : trimBy p text = text := by
  have hdrop : ∀ chars : List Char, (∀ c ∈ chars.head?, p c = false) → chars.dropWhile p = chars := by
    intro chars hchars
    cases chars with
    | nil => rfl
    | cons c rest => exact List.dropWhile_cons_of_neg (by simp [hchars c rfl])
  rw [trimBy, hdrop text hfirst, hdrop text.reverse (by simpa using hlast), List.reverse_reverse]

/-- **The joined words have no blank at their ends.** -/
theorem trim_joinWords (text : String) : trim (joinWords text) = joinWords text := by
  obtain ⟨hfirst, hlast⟩ := solid_ends (words_eq_iff.mp (Eq.refl (words text.toList))).solid
  rw [trim, toList_joinWords, trimBy_of_ends hfirst hlast, ← toList_joinWords, String.ofList_toList]

/-! ### Words up to the case of ASCII letters -/

/-- **The same word**, up to the case of ASCII letters. -/
def SameWord (a b : List Char) : Prop := a.map Char.toLower = b.map Char.toLower

instance (a b : List Char) : Decidable (SameWord a b) :=
  inferInstanceAs (Decidable (a.map Char.toLower = b.map Char.toLower))

theorem map_intercalate_of_same {parts parts' : List (List Char)}
    (h : List.Forall₂ SameWord parts parts') :
    ([' '].intercalate parts).map Char.toLower = ([' '].intercalate parts').map Char.toLower := by
  induction h with
  | nil => rfl
  | @cons word word' rest rest' hword hrest ih =>
    have hword' : word.map Char.toLower = word'.map Char.toLower := hword
    cases hrest with
    | nil => rw [List.intercalate_singleton, List.intercalate_singleton, hword']
    | cons =>
      rw [List.intercalate_cons_cons, List.intercalate_cons_cons, List.map_append, List.map_append,
        List.map_append, List.map_append, ih, hword']

/-- Texts of the same words are the same text up to case, once their words are joined. -/
theorem lowerAscii_joinWords {a b : String}
    (h : List.Forall₂ SameWord (words a.toList) (words b.toList)) :
    lowerAscii (joinWords a) = lowerAscii (joinWords b) := by
  rw [lowerAscii, lowerAscii, toList_joinWords, toList_joinWords, map_intercalate_of_same h]

end Indicator.Text

namespace Indicator.Sql

open Text

/-- The text that a fingerprint is taken of has no blank at its ends before it is lowered. -/
theorem fingerprintText_eq_trim (sql : String) :
    fingerprintText sql = lower (trim (joinWords sql)) := by
  rw [trim_joinWords, fingerprintText]

/-- **Texts of the same words have the same fingerprint**, however the words are laid out and
whatever the case of their ASCII letters. A whole text has one. -/
theorem fingerprint_congr {a b : String}
    (h : List.Forall₂ SameWord (words a.toList) (words b.toList)) :
    fingerprintText a = fingerprintText b ∧ fingerprint a = fingerprint b ∧
      (isWhole a = true → ∃ digest, fingerprint a = .ok digest ∧ fingerprint b = .ok digest) := by
  have htext : fingerprintText a = fingerprintText b := lower_congr (lowerAscii_joinWords h)
  have hprint : fingerprint a = fingerprint b := by
    rw [fingerprint, fingerprint, htext]
  refine ⟨htext, hprint, fun hwhole => ?_⟩
  obtain ⟨digest, hdigest⟩ := fingerprint_of_whole hwhole
  exact ⟨digest, hdigest, hprint ▸ hdigest⟩

/-- A statement in two layouts: the letter before a final sigma may be in either case, and a blank
between two words may be one that does not break a line. -/
theorem fingerprint_congr_sigma :
    List.Forall₂ SameWord (words "SELECT  aΣ,\u00a0b".toList) (words " select\tAΣ, B\n".toList) ∧
      fingerprintText "SELECT  aΣ,\u00a0b" = fingerprintText " select\tAΣ, B\n" ∧
      ∃ digest, fingerprint "SELECT  aΣ,\u00a0b" = .ok digest ∧
        fingerprint " select\tAΣ, B\n" = .ok digest := by
  have hsame : List.Forall₂ SameWord (words "SELECT  aΣ,\u00a0b".toList)
      (words " select\tAΣ, B\n".toList) := by decide +kernel
  have hwhole : isWhole "SELECT  aΣ,\u00a0b" = true := by decide +kernel
  obtain ⟨htext, -, hdigest⟩ := fingerprint_congr hsame
  exact ⟨hsame, htext, hdigest hwhole⟩

example : fingerprintText "SELECT  aΣ,\u00a0b" = "select aς, b" := by decide +kernel

end Indicator.Sql
