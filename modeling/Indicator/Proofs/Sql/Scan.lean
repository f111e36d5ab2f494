import Mathlib.Data.List.Chain
import Indicator.Sql.Literal

/-!
# Reading literals back

A text in SQL is read from left to right. An apostrophe opens a literal. Inside of it a backslash
takes the next character as it is, two apostrophes stand for one, and a single apostrophe closes
the literal.

* `scan`: the tokens of a text, `none` if it ends inside of a literal.
* `render`: the text of tokens, in which every value is written as a literal.
* `Sound tokens`: no apostrophe stands outside of a literal and no two literals touch.
* `scan_of_render`: **sound tokens are read back as they were written**, whatever the values hold.
-/

namespace Indicator.Sql

/-- A part of a text: a character outside of the literals, or a literal with its value. -/
inductive Token
  | mark (c : Char)
  | literal (value : String)
deriving DecidableEq, Repr

/-! ### Scanning -/

/-- Where a reader stands: outside of the literals, inside of one, after a backslash in one, or
after an apostrophe in one, which closes it unless another follows. -/
inductive Mode
  | outside
  | inside (read : List Char)
  | escaped (read : List Char)
  | closing (read : List Char)

/-- The tokens of the rest of a text. -/
def scanFrom : Mode → List Char → Option (List Token)
  | .outside, [] => some []
  | .inside _, [] | .escaped _, [] => none
  | .closing read, [] => some [.literal (String.ofList read)]
  | .outside, c :: rest =>
    if c = '\'' then scanFrom (.inside []) rest
    else (scanFrom .outside rest).map (.mark c :: ·)
  | .inside read, c :: rest =>
    if c = '\\' then scanFrom (.escaped read) rest
    else if c = '\'' then scanFrom (.closing read) rest
    else scanFrom (.inside (read ++ [c])) rest
  | .escaped read, c :: rest => scanFrom (.inside (read ++ [c])) rest
  | .closing read, c :: rest =>
    if c = '\'' then scanFrom (.inside (read ++ ['\''])) rest
    else (scanFrom .outside rest).map fun tokens =>
      .literal (String.ofList read) :: .mark c :: tokens

/-- The tokens of a text. -/
def scan (text : String) : Option (List Token) := scanFrom .outside text.toList

example : scan "a = 'it''s \\'' AND b" = some
    ([.mark 'a', .mark ' ', .mark '=', .mark ' ', .literal "it's '", .mark ' ', .mark 'A',
      .mark 'N', .mark 'D', .mark ' ', .mark 'b']) := by decide

/-! ### Tokens -/

namespace Token

/-- The text of a token. -/
def text : Token → List Char
  | mark c => [c]
  | literal value => (Sql.literal value).toList

/-- The value of a literal. -/
def value? : Token → Option String
  | mark _ => none
  | literal value => some value

/-- A token without the value of a literal. -/
def erase : Token → Option Char
  | mark c => some c
  | literal _ => none

end Token

/-- The text that tokens make. -/
def render (tokens : List Token) : List Char := tokens.flatMap Token.text

/-- The values of the literals, in order. -/
def values (tokens : List Token) : List String := tokens.filterMap Token.value?

/-- The text around the literals, of which only the places are kept. -/
def outline (tokens : List Token) : List (Option Char) := tokens.map Token.erase

/-- The tokens of a text outside of the literals. -/
def marks (text : String) : List Token := text.toList.map .mark

@[simp] theorem render_nil : render [] = [] := rfl

@[simp] theorem render_cons (token : Token) (tokens : List Token) :
    render (token :: tokens) = token.text ++ render tokens := rfl

@[simp] theorem render_append (a b : List Token) : render (a ++ b) = render a ++ render b :=
  List.flatMap_append

@[simp] theorem render_marks (text : String) : render (marks text) = text.toList := by
  have hmarks : ∀ chars : List Char, (chars.map Token.mark).flatMap Token.text = chars := by
    intro chars
    induction chars with
    | nil => rfl
    | cons c chars ih => rw [List.map_cons, List.flatMap_cons, ih]; rfl
  exact hmarks text.toList

@[simp] theorem values_nil : values [] = [] := rfl

@[simp] theorem values_append (a b : List Token) : values (a ++ b) = values a ++ values b :=
  List.filterMap_append

@[simp] theorem values_literal (value : String) (tokens : List Token) :
    values (.literal value :: tokens) = value :: values tokens := rfl

@[simp] theorem values_marks (text : String) : values (marks text) = [] := by
  rw [values, marks, List.filterMap_map, List.filterMap_eq_nil_iff]
  intro c _
  rfl

@[simp] theorem outline_nil : outline [] = [] := rfl

@[simp] theorem outline_append (a b : List Token) : outline (a ++ b) = outline a ++ outline b :=
  List.map_append

@[simp] theorem outline_literal (value : String) (tokens : List Token) :
    outline (.literal value :: tokens) = none :: outline tokens := rfl

theorem render_intercalate (separator : String) (parts : List (List Token)) :
    render ((marks separator).intercalate parts) =
      separator.toList.intercalate (parts.map render) := by
  induction parts with
  | nil => rfl
  | cons part parts ih =>
    cases parts with
    | nil => simp
    | cons next parts =>
      rw [List.intercalate_cons_cons, render_append, render_append, render_marks, ih]
      simp only [List.map_cons, List.intercalate_cons_cons]

theorem values_intercalate (separator : String) (parts : List (List Token)) :
    values ((marks separator).intercalate parts) = parts.flatMap values := by
  induction parts with
  | nil => rfl
  | cons part parts ih =>
    cases parts with
    | nil => simp
    | cons next parts =>
      rw [List.intercalate_cons_cons, values_append, values_append, values_marks, ih]
      simp only [List.append_nil, List.flatMap_cons]

theorem outline_intercalate (separator : List Token) (parts : List (List Token)) :
    outline (separator.intercalate parts) =
      (outline separator).intercalate (parts.map outline) := by
  induction parts with
  | nil => rfl
  | cons part parts ih =>
    cases parts with
    | nil => simp
    | cons next parts =>
      rw [List.intercalate_cons_cons, outline_append, outline_append, ih]
      simp only [List.map_cons, List.intercalate_cons_cons]

/-! ### Sound tokens -/

/-- Two tokens may stand side by side unless both are literals. -/
def Apart (a b : Token) : Prop := a.value? = none ∨ b.value? = none

/-- **Sound tokens.** No apostrophe stands outside of a literal and no two literals touch. -/
structure Sound (tokens : List Token) : Prop where
  unquoted : .mark '\'' ∉ tokens
  apart : tokens.IsChain Apart

/-- The next token is a character. -/
def Marked (tokens : List Token) : Prop := ∀ token ∈ tokens.head?, token.value? = none

theorem marked_marks (text : String) (tokens : List Token) (h : text ≠ "") :
    Marked (marks text ++ tokens) := by
  intro token htoken
  cases hchars : text.toList with
  | nil => exact absurd (String.toList_eq_nil_iff.mp hchars) h
  | cons c chars =>
    rw [marks, hchars, List.map_cons, List.cons_append, List.head?_cons] at htoken
    cases htoken
    rfl

theorem Sound.append {a b : List Token} (ha : Sound a) (hb : Sound b) (hmarked : Marked b) :
    Sound (a ++ b) := by
  constructor
  · rw [List.mem_append, not_or]
    exact ⟨ha.unquoted, hb.unquoted⟩
  · rw [List.isChain_append]
    exact ⟨ha.apart, hb.apart, fun x _ y hy => .inr (hmarked y hy)⟩

theorem sound_marks {text : String} (h : '\'' ∉ text.toList) : Sound (marks text) := by
  constructor
  · intro hmem
    obtain ⟨c, hc, hmark⟩ := List.mem_map.mp hmem
    cases hmark
    exact h hc
  · have hchain : ∀ chars : List Char, (chars.map Token.mark).IsChain Apart := by
      intro chars
      induction chars with
      | nil => exact .nil
      | cons c chars ih => exact List.isChain_cons.mpr ⟨fun _ _ => .inl rfl, ih⟩
    exact hchain text.toList

theorem sound_literal (value : String) : Sound [.literal value] :=
  ⟨by simp, .singleton _⟩

/-- Anything may follow characters. -/
theorem Sound.marks_append {text : String} {tokens : List Token} (htext : '\'' ∉ text.toList)
    (h : Sound tokens) : Sound (marks text ++ tokens) := by
  have hmarks := sound_marks htext
  constructor
  · rw [List.mem_append, not_or]
    exact ⟨hmarks.unquoted, h.unquoted⟩
  · rw [List.isChain_append]
    refine ⟨hmarks.apart, h.apart, fun x hx _ _ => .inl ?_⟩
    obtain ⟨c, -, rfl⟩ := List.mem_map.mp (List.mem_of_getLast? hx)
    rfl

/-- Characters between sound tokens keep the literals apart. -/
theorem Sound.intercalate {separator : String} {parts : List (List Token)}
    (hempty : separator ≠ "") (hseparator : '\'' ∉ separator.toList)
    (h : ∀ part ∈ parts, Sound part) : Sound ((marks separator).intercalate parts) := by
  induction parts with
  | nil => exact ⟨by simp, .nil⟩
  | cons part parts ih =>
    have hpart := h part List.mem_cons_self
    have hrest := ih fun other hother => h other (List.mem_cons_of_mem _ hother)
    cases parts with
    | nil =>
      rw [List.intercalate_singleton]
      exact hpart
    | cons next parts =>
      rw [List.intercalate_cons_cons, List.append_assoc]
      exact hpart.append (hrest.marks_append hseparator) (marked_marks _ _ hempty)

/-- What follows a literal does not go on with it. -/
theorem Sound.marked_of_literal {value : String} {tokens : List Token}
    (h : Sound (.literal value :: tokens)) : Marked tokens := by
  intro token htoken
  rcases (List.isChain_cons.mp h.apart).1 token htoken with hnone | hnone
  · cases hnone
  · exact hnone

theorem Sound.tail {token : Token} {tokens : List Token} (h : Sound (token :: tokens)) :
    Sound tokens :=
  ⟨fun hmem => h.unquoted (List.mem_cons_of_mem _ hmem), (List.isChain_cons.mp h.apart).2⟩

/-! ### Scanning what was rendered -/

/-- Escaped characters are read as they were. -/
theorem scanFrom_escape (value read rest : List Char) :
    scanFrom (.inside read) (value.flatMap escapeChar ++ rest) =
      scanFrom (.inside (read ++ value)) rest := by
  induction value generalizing read with
  | nil => simp
  | cons c value ih =>
    have happend : read ++ c :: value = read ++ [c] ++ value := by simp
    rw [happend, ← ih, List.flatMap_cons, List.append_assoc]
    by_cases hbackslash : c = '\\'
    · subst hbackslash
      rfl
    · by_cases hquote : c = '\''
      · subst hquote
        rfl
      · rw [escapeChar, if_neg (by simp [hbackslash, hquote]), List.singleton_append, scanFrom,
          if_neg hbackslash, if_neg hquote]

theorem scanFrom_literal (value : String) (rest : List Char) :
    scanFrom .outside ((literal value).toList ++ rest) =
      scanFrom (.closing value.toList) rest := by
  have htext : (literal value).toList ++ rest =
      '\'' :: (value.toList.flatMap escapeChar ++ '\'' :: rest) := by
    simp [literal, escape]
  rw [htext, scanFrom, if_pos rfl, scanFrom_escape, List.nil_append, scanFrom,
    if_neg (by decide), if_pos rfl]

/-- **Sound tokens are read back** from the text they make. -/
theorem scanFrom_render {tokens : List Token} (h : Sound tokens) :
    scanFrom .outside (render tokens) = some tokens := by
  induction tokens with
  | nil => rfl
  | cons token tokens ih =>
    have htail := ih h.tail
    cases token with
    | mark c =>
      have hc : c ≠ '\'' := by
        rintro rfl
        exact h.unquoted List.mem_cons_self
      rw [render_cons, Token.text, List.singleton_append, scanFrom, if_neg hc, htail]
      rfl
    | literal value =>
      rw [render_cons, Token.text, scanFrom_literal]
      cases tokens with
      | nil =>
        rw [render_nil, scanFrom, String.ofList_toList]
      | cons next tokens =>
        cases next with
        | mark c =>
          have hc : c ≠ '\'' := by
            rintro rfl
            exact h.tail.unquoted List.mem_cons_self
          rw [render_cons, Token.text, List.singleton_append, scanFrom, if_neg hc] at htail
          rw [render_cons, Token.text, List.singleton_append, scanFrom, if_neg hc]
          obtain ⟨found, hfound, heq⟩ := Option.map_eq_some_iff.mp htail
          cases heq
          rw [hfound, String.ofList_toList]
          rfl
        | literal other =>
          have hmarked := h.marked_of_literal (.literal other) rfl
          cases hmarked

theorem scan_of_render {tokens : List Token} {text : String} (h : Sound tokens)
    (htext : text.toList = render tokens) : scan text = some tokens := by
  rw [scan, htext]
  exact scanFrom_render h

end Indicator.Sql
