import Indicator.Proofs.Sql.Injection

/-!
# Reading conditions back

A condition in SQL, read as a conjunction of comparisons. The tokens of its text make words, values
and signs; a comparison is told by where these stand, so that a column may have any name.

* `lex`: the lexemes of tokens. `comparison?`, `conjunction?`: the comparisons that lexemes make.
* `Comparison.eval`: whether a comparison holds of a row. `readCondition`: the comparisons of a
  condition.
* `Predicate.lex_tokens`, `Predicate.comparison_lexemes`: a predicate is read as the comparison that
  it stands for.
* `readCondition_conjunction`: **a conjunction of predicates is read back**, whatever their values
  hold.
-/

namespace Indicator.Sql

/-! ### Lexemes -/

/-- A word, the value of a literal, or a sign. -/
inductive Lexeme
  | word (text : String)
  | value (text : String)
  | equals
  | differs
  | opening
  | closing
  | comma
deriving DecidableEq, Repr

/-- The signs of a single character. -/
def Lexeme.ofSign? : Char → Option Lexeme
  | '=' => some .equals
  | '(' => some .opening
  | ')' => some .closing
  | ',' => some .comma
  | _ => none

/-- The characters of words: those of identifiers, and the dot between the parts of a name. -/
def isWordChar (c : Char) : Bool := isIdentifierChar c || c = '.'

/-- What a lexeme that is being read begins with. -/
inductive Part
  | word (read : List Char)
  | less

/-- The lexemes after the end of a word. -/
def endWord (read : List Char) (lexemes : List Lexeme) : List Lexeme :=
  if read = [] then lexemes else .word (String.ofList read) :: lexemes

/-- The lexemes of the rest of tokens. -/
def lexFrom : Part → List Token → Option (List Lexeme)
  | .word read, [] => some (endWord read [])
  | .word read, .literal value :: rest =>
    ((lexFrom (.word []) rest).map (.value value :: ·)).map (endWord read)
  | .word read, .mark c :: rest =>
    if isWordChar c then lexFrom (.word (read ++ [c])) rest
    else Option.map (endWord read) <|
      if c = ' ' then lexFrom (.word []) rest
      else if c = '<' then lexFrom .less rest
      else (Lexeme.ofSign? c).bind fun sign => (lexFrom (.word []) rest).map (sign :: ·)
  | .less, .mark c :: rest =>
    if c = '>' then (lexFrom (.word []) rest).map (.differs :: ·) else none
  | .less, _ => none

/-- The lexemes of tokens. -/
def lex (tokens : List Token) : Option (List Lexeme) := lexFrom (.word []) tokens

/-! ### Comparisons -/

/-- The comparisons of a condition. -/
inductive Comparison
  /-- Two numbers are equal. -/
  | numbers (left right : Nat)
  /-- A column holds a value. -/
  | equal (column value : String)
  /-- A column holds another value. -/
  | different (column value : String)
  /-- A column lies between two values, both included. -/
  | between (column first last : String)
  /-- A column holds one of several values. -/
  | oneOf (column : String) (values : List String)
  /-- A column holds the greatest value of a column of a table. -/
  | greatest (column source table : String)
  /-- A column holds any value. -/
  | present (column : String)
deriving DecidableEq, Repr

/-- Whether a comparison holds of a row, `greatest` telling the greatest value of a column of a
table. -/
def Comparison.eval (greatest : String → String → String) (row : String → String) :
    Comparison → Bool
  | numbers left right => left = right
  | equal column value => row column = value
  | different column value => row column ≠ value
  | between column first last => first ≤ row column ∧ row column ≤ last
  | oneOf column values => values.contains (row column)
  | .greatest column source table => row column = greatest source table
  | present _ => true

/-- The number that a word stands for. -/
def number? (word : String) : Option Nat :=
  if word.toList.all Char.isDigit then some (Nat.ofDigitChars 10 word.toList 0) else none

/-- The values of a list up to its end, and what follows it. -/
def values? : List Lexeme → Option (List String × List Lexeme)
  | .value text :: .closing :: rest => some ([text], rest)
  | .value text :: .comma :: rest => (values? rest).map fun found => (text :: found.1, found.2)
  | _ => none

/-- A comparison after its left side and the sign of equality. -/
def equality? (left : String) : List Lexeme → Option (Comparison × List Lexeme)
  | .value text :: rest => some (.equal left text, rest)
  | .word right :: rest =>
    match number? left, number? right with
    | some a, some b => some (.numbers a b, rest)
    | _, _ => none
  | .opening :: .word select :: .word function :: .opening :: .word source :: .closing ::
      .word source' :: .word table :: .closing :: rest =>
    if select = "SELECT" ∧ function = "MAX" ∧ source' = "FROM" then
      some (.greatest left source table, rest)
    else none
  | _ => none

/-- A comparison after its column and a word. -/
def wordComparison? (column operator : String) : List Lexeme → Option (Comparison × List Lexeme)
  | .value first :: .word and :: .value last :: rest =>
    if operator = "BETWEEN" ∧ and = "AND" then some (.between column first last, rest) else none
  | .opening :: rest =>
    if operator = "IN" then (values? rest).map fun found => (.oneOf column found.1, found.2)
    else none
  | .word not :: .word null :: rest =>
    if operator = "IS" ∧ not = "NOT" ∧ null = "NULL" then some (.present column, rest) else none
  | _ => none

/-- The first comparison, and what follows it. -/
def comparison? : List Lexeme → Option (Comparison × List Lexeme)
  | .word left :: .equals :: rest => equality? left rest
  | .word column :: .differs :: .value text :: rest => some (.different column text, rest)
  | .word column :: .word operator :: rest => wordComparison? column operator rest
  | _ => none

theorem length_values {lexemes rest : List Lexeme} {found : List String}
    (h : values? lexemes = some (found, rest)) : rest.length < lexemes.length := by
  induction lexemes using values?.induct generalizing found with
  | case1 text tail =>
    cases h
    simp only [List.length_cons]
    omega
  | case2 text tail ih =>
    obtain ⟨⟨others, after⟩, hothers, heq⟩ := Option.map_eq_some_iff.mp h
    cases heq
    have hlength := ih hothers
    simp only [List.length_cons]
    exact hlength.trans (by omega)
  | case3 lexemes hlast hnext =>
    rw [values?] at h
    · cases h
    · exact hlast
    · exact hnext

theorem length_equality {left : String} {lexemes rest : List Lexeme} {comparison : Comparison}
    (h : equality? left lexemes = some (comparison, rest)) : rest.length < lexemes.length := by
  unfold equality? at h
  split at h
  · cases h
    simp
  · split at h
    · cases h
      simp
    · cases h
  · split at h
    · cases h
      simp only [List.length_cons]
      omega
    · cases h
  · cases h

theorem length_wordComparison {column operator : String} {lexemes rest : List Lexeme}
    {comparison : Comparison} (h : wordComparison? column operator lexemes =
      some (comparison, rest)) : rest.length < lexemes.length := by
  unfold wordComparison? at h
  split at h
  · split at h
    · cases h
      simp only [List.length_cons]
      omega
    · cases h
  · split at h
    · obtain ⟨⟨texts, after⟩, htexts, heq⟩ := Option.map_eq_some_iff.mp h
      cases heq
      exact (length_values htexts).trans (Nat.lt_succ_self _)
    · cases h
  · split at h
    · cases h
      simp only [List.length_cons]
      omega
    · cases h
  · cases h

theorem length_comparison {lexemes rest : List Lexeme} {comparison : Comparison}
    (h : comparison? lexemes = some (comparison, rest)) : rest.length < lexemes.length := by
  unfold comparison? at h
  split at h
  · have hlength := length_equality h
    simp only [List.length_cons]
    omega
  · cases h
    simp only [List.length_cons]
    omega
  · have hlength := length_wordComparison h
    simp only [List.length_cons]
    omega
  · cases h

/-- Comparisons of which all must hold. -/
def conjunction? (lexemes : List Lexeme) : Option (List Comparison) :=
  match _h : comparison? lexemes with
  | some (comparison, []) => some [comparison]
  | some (comparison, .word and :: rest) =>
    if and = "AND" then (conjunction? rest).map (comparison :: ·) else none
  | _ => none
termination_by lexemes.length
decreasing_by
  have hlength := length_comparison _h
  rw [List.length_cons] at hlength
  omega

/-- The comparisons of a condition. -/
def readCondition (condition : String) : Option (List Comparison) := do
  let lexemes ← lex (← scan condition)
  match lexemes with
  | .word first :: rest => if first = "WHERE" then conjunction? rest else none
  | _ => none

/-! ### Lexemes of tokens -/

/-- No word goes on with the tokens. -/
def Bounded : List Token → Prop
  | .mark c :: _ => isWordChar c = false
  | _ => True

theorem marks_append (a b : String) : marks (a ++ b) = marks a ++ marks b := by
  simp [marks, String.toList_append]

@[simp] theorem endWord_nil : endWord [] = id := rfl

theorem endWord_append (read : List Char) (a b : List Lexeme) :
    endWord read (a ++ b) = endWord read a ++ b := by
  unfold endWord
  split <;> rfl

/-- Where a word ends, its lexeme comes before those that follow. -/
theorem lexFrom_bounded {tokens : List Token} (read : List Char) (h : Bounded tokens) :
    lexFrom (.word read) tokens = (lex tokens).map (endWord read) := by
  cases tokens with
  | nil => rfl
  | cons token tokens =>
    cases token with
    | literal value => simp [lex, lexFrom]
    | mark c =>
      have hc : ¬ isWordChar c = true := by simpa [Bounded] using h
      simp [lex, lexFrom, if_neg hc]

/-- **Tokens are read piece by piece**, if no word goes on from one piece to the next. -/
theorem lexFrom_append {part : Part} {a b : List Token} {lexemes : List Lexeme}
    (ha : lexFrom part a = some lexemes) (hb : Bounded b) :
    lexFrom part (a ++ b) = (lex b).map (lexemes ++ ·) := by
  induction a generalizing part lexemes with
  | nil =>
    cases part with
    | less => cases ha
    | word read =>
      cases ha
      rw [List.nil_append, lexFrom_bounded read hb]
      exact congrArg (fun f => (lex b).map f) (funext fun found => endWord_append read [] found)
  | cons token a ih =>
    -- what was read before the rest of the first piece stands before what follows this piece
    have hprefix : ∀ {part found} {f : List Lexeme → List Lexeme}, lexFrom part a = some found →
        (∀ x y, f (x ++ y) = f x ++ y) → f found = lexemes →
        (lexFrom part (a ++ b)).map f = (lex b).map (lexemes ++ ·) := by
      intro part found f hfound hf heq
      rw [ih hfound, Option.map_map, ← heq]
      exact congrArg (fun g => (lex b).map g) (funext fun rest => hf found rest)
    cases part with
    | less =>
      cases token with
      | literal value => cases ha
      | mark c =>
        rw [List.cons_append, lexFrom] at *
        split at ha
        · rename_i hc
          obtain ⟨found, hfound, heq⟩ := Option.map_eq_some_iff.mp ha
          rw [if_pos hc]
          exact hprefix hfound (fun _ _ => rfl) heq
        · cases ha
    | word read =>
      cases token with
      | literal value =>
        rw [lexFrom, Option.map_map] at ha
        obtain ⟨found, hfound, heq⟩ := Option.map_eq_some_iff.mp ha
        rw [List.cons_append, lexFrom, Option.map_map]
        exact hprefix hfound (fun x y => endWord_append read (.value value :: x) y) heq
      | mark c =>
        rw [lexFrom] at ha
        rw [List.cons_append, lexFrom]
        by_cases hword : isWordChar c = true
        · rw [if_pos hword] at ha ⊢
          exact ih ha
        · rw [if_neg hword] at ha ⊢
          obtain ⟨found, hfound, heq⟩ := Option.map_eq_some_iff.mp ha
          by_cases hblank : c = ' '
          · rw [if_pos hblank] at hfound ⊢
            exact hprefix hfound (endWord_append read) heq
          · rw [if_neg hblank] at hfound ⊢
            by_cases hless : c = '<'
            · rw [if_pos hless] at hfound ⊢
              exact hprefix hfound (endWord_append read) heq
            · rw [if_neg hless] at hfound ⊢
              obtain ⟨sign, hsign, hfound⟩ := Option.bind_eq_some_iff.mp hfound
              obtain ⟨others, hothers, rfl⟩ := Option.map_eq_some_iff.mp hfound
              rw [hsign, Option.bind_some, Option.map_map]
              exact hprefix hothers (fun x y => endWord_append read (sign :: x) y) heq

theorem lex_append {a b : List Token} {first second : List Lexeme} (ha : lex a = some first)
    (hb : lex b = some second) (hbounded : Bounded b) : lex (a ++ b) = some (first ++ second) := by
  rw [lex, lexFrom_append ha hbounded, hb]
  rfl

theorem lex_blank (tokens : List Token) : lex (marks " " ++ tokens) = lex tokens := by
  simp [marks, lex, lexFrom, isWordChar, isIdentifierChar]

/-- A word: characters of words, and at least one. -/
def Word (text : String) : Prop := text ≠ "" ∧ ∀ c ∈ text.toList, isWordChar c

-- The characters are those of the list: there are too many to look at each.
instance (text : String) : Decidable (Word text) :=
  @instDecidableAnd _ _ inferInstance (List.decidableBAll _ _)

theorem lex_word {word : String} (h : Word word) : lex (marks word) = some [.word word] := by
  have hchars : ∀ (chars read : List Char), (∀ c ∈ chars, isWordChar c) →
      lexFrom (.word read) (chars.map .mark) = some (endWord (read ++ chars) []) := by
    intro chars
    induction chars with
    | nil => intro read _; rw [List.append_nil]; rfl
    | cons c chars ih =>
      intro read hword
      have hrest := ih (read ++ [c]) fun other hother => hword other (List.mem_cons_of_mem _ hother)
      rw [List.map_cons, lexFrom, if_pos (hword c List.mem_cons_self), hrest, List.append_assoc]
      rfl
  have hnonempty : word.toList ≠ [] := fun hnil => h.1 (String.toList_eq_nil_iff.mp hnil)
  rw [lex, marks, hchars word.toList [] h.2, List.nil_append, endWord, if_neg hnonempty,
    String.ofList_toList]

/-! ### Predicates -/

namespace Predicate

/-- The comparison that a predicate stands for. -/
def comparison : Predicate → Comparison
  | always => .numbers 1 1
  | latestMonth table => .greatest Column.month Column.month table
  | monthBetween first last => .between Column.month first last
  | equal column value => .equal column value
  | oneOf column values => .oneOf column values
  | different column value => .different column value
  | present column => .present column

/-- The lexemes of a list of values, with its end. -/
def listLexemes : List String → List Lexeme
  | [] => [.closing]
  | [last] => [.value last, .closing]
  | value :: rest => .value value :: .comma :: listLexemes rest

/-- The lexemes of a predicate. -/
def lexemes : Predicate → List Lexeme
  | always => [.word "1", .equals, .word "1"]
  | latestMonth table =>
    [.word Column.month, .equals, .opening, .word "SELECT", .word "MAX", .opening,
      .word Column.month, .closing, .word "FROM", .word table, .closing]
  | monthBetween first last =>
    [.word Column.month, .word "BETWEEN", .value first, .word "AND", .value last]
  | equal column value => [.word column, .equals, .value value]
  | oneOf column values => .word column :: .word "IN" :: .opening :: listLexemes values
  | different column value => [.word column, .differs, .value value]
  | present column => [.word column, .word "IS", .word "NOT", .word "NULL"]

/-- A predicate that can be read: what it names are words, and its list is not empty. -/
structure Readable (p : Predicate) : Prop where
  words : ∀ name ∈ p.names, Word name
  listed : ∀ column, p ≠ .oneOf column []

theorem bounded_list {values : List String} (hvalues : values ≠ []) :
    Bounded ((marks ", ").intercalate (values.map fun value => [.literal value]) ++ marks ")") := by
  cases values with
  | nil => exact absurd rfl hvalues
  | cons value values => cases values <;> trivial

theorem lex_list {values : List String} (hvalues : values ≠ []) :
    lex ((marks ", ").intercalate (values.map fun value => [.literal value]) ++ marks ")") =
      some (listLexemes values) := by
  induction values with
  | nil => exact absurd rfl hvalues
  | cons value values ih =>
    cases values with
    | nil => rfl
    | cons next values =>
      have hrest := ih (by simp)
      have hfirst : lex ([.literal value] ++ marks ",") = some [.value value, .comma] := rfl
      have hblank := (lex_blank _).trans hrest
      rw [List.map_cons, List.map_cons, List.intercalate_cons_cons,
        show marks ", " = marks "," ++ marks " " from rfl]
      simp only [List.append_assoc] at hfirst hblank ⊢
      exact lex_append hfirst hblank rfl

/-- **A predicate is read** as the lexemes that it is meant to have. -/
theorem lex_tokens {p : Predicate} (h : p.Readable) : lex p.tokens = some p.lexemes := by
  cases p with
  | always => rfl
  | latestMonth table =>
    have htable := lex_word (h.words table (by simp [names]))
    have hend : lex (marks table ++ marks ")") = some [.word table, .closing] :=
      lex_append htable rfl rfl
    have hblank := (lex_blank _).trans hend
    have hfirst : lex (marks (Column.month ++ " = (SELECT MAX(" ++ Column.month ++ ") FROM")) =
        some [.word Column.month, .equals, .opening, .word "SELECT", .word "MAX", .opening,
          .word Column.month, .closing, .word "FROM"] := rfl
    have htext : Column.month ++ " = (SELECT MAX(" ++ Column.month ++ ") FROM " ++ table ++ ")" =
        Column.month ++ " = (SELECT MAX(" ++ Column.month ++ ") FROM" ++
          (" " ++ (table ++ ")")) := by
      simp only [String.append_assoc, show ") FROM " = ") FROM" ++ " " from rfl]
    rw [tokens, htext, marks_append (_ ++ ") FROM"), marks_append " ", marks_append table]
    exact lex_append hfirst hblank rfl
  | monthBetween first last => rfl
  | equal column value =>
    have hcolumn := lex_word (h.words column (by simp [names]))
    simp only [tokens, marks_append, List.append_assoc]
    exact lex_append hcolumn rfl rfl
  | oneOf column values =>
    have hcolumn := lex_word (h.words column (by simp [names]))
    have hvalues : values ≠ [] := by
      rintro rfl
      exact h.listed column rfl
    have hopening : lex (marks " IN (") = some [.word "IN", .opening] := rfl
    have hlist := lex_append hopening (lex_list hvalues) (bounded_list hvalues)
    simp only [tokens, marks_append, List.append_assoc] at hlist ⊢
    exact lex_append hcolumn hlist rfl
  | different column value =>
    have hcolumn := lex_word (h.words column (by simp [names]))
    simp only [tokens, marks_append, List.append_assoc]
    exact lex_append hcolumn rfl rfl
  | present column =>
    have hcolumn := lex_word (h.words column (by simp [names]))
    rw [tokens, marks_append]
    exact lex_append hcolumn rfl rfl

theorem values_list {values : List String} (hvalues : values ≠ []) (rest : List Lexeme) :
    values? (listLexemes values ++ rest) = some (values, rest) := by
  induction values with
  | nil => exact absurd rfl hvalues
  | cons value values ih =>
    cases values with
    | nil => rfl
    | cons next values =>
      have hrest := ih (by simp)
      rw [listLexemes, List.cons_append, List.cons_append, values?, hrest]
      · rfl
      · simp

/-- **The lexemes of a predicate make its comparison.** -/
theorem comparison_lexemes {p : Predicate} (h : p.Readable) (rest : List Lexeme) :
    comparison? (p.lexemes ++ rest) = some (p.comparison, rest) := by
  cases p with
  | oneOf column values =>
    have hvalues : values ≠ [] := by
      rintro rfl
      exact h.listed column rfl
    simp only [lexemes, List.cons_append, comparison?, wordComparison?, values_list hvalues]
    rfl
  | always =>
    have hone : number? "1" = some 1 := by decide
    simp only [lexemes, List.cons_append, comparison?, equality?, hone]
    rfl
  | latestMonth table => rfl
  | monthBetween first last => rfl
  | equal column value => rfl
  | different column value => rfl
  | present column => rfl

end Predicate

/-! ### Conditions -/

theorem lex_conjunction {predicates : List Predicate} (h : ∀ p ∈ predicates, p.Readable) :
    lex (conjunctionTokens predicates) =
      some ([.word "AND"].intercalate (predicates.map Predicate.lexemes)) := by
  induction predicates with
  | nil => rfl
  | cons p predicates ih =>
    have hp := Predicate.lex_tokens (h p List.mem_cons_self)
    have hrest := ih fun other hother => h other (List.mem_cons_of_mem _ hother)
    cases predicates with
    | nil => simpa [conjunctionTokens] using hp
    | cons next predicates =>
      have hand : lex (marks " AND") = some [.word "AND"] := rfl
      have hafter := lex_append hand ((lex_blank _).trans hrest) rfl
      have hall := lex_append hp hafter rfl
      simp only [conjunctionTokens, List.map_cons, List.intercalate_cons_cons] at hall ⊢
      have hmarks : marks " AND " = marks " AND" ++ marks " " := rfl
      rw [List.append_assoc, List.append_assoc, hmarks, List.append_assoc]
      exact hall

theorem conjunction_lexemes {predicates : List Predicate} (hsome : predicates ≠ [])
    (h : ∀ p ∈ predicates, p.Readable) :
    conjunction? ([.word "AND"].intercalate (predicates.map Predicate.lexemes)) =
      some (predicates.map Predicate.comparison) := by
  induction predicates with
  | nil => exact absurd rfl hsome
  | cons p predicates ih =>
    have hp := Predicate.comparison_lexemes (h p List.mem_cons_self)
    cases predicates with
    | nil =>
      have hlast := hp []
      rw [List.append_nil] at hlast
      rw [List.map_singleton, List.intercalate_singleton, conjunction?, hlast]
      rfl
    | cons next predicates =>
      have hrest := ih (by simp) fun other hother => h other (List.mem_cons_of_mem _ hother)
      rw [List.map_cons, List.map_cons, List.intercalate_cons_cons, List.append_assoc, conjunction?,
        hp]
      show (if "AND" = "AND" then Option.map (p.comparison :: ·) (conjunction?
        ([.word "AND"].intercalate ((next :: predicates).map Predicate.lexemes))) else none) = _
      rw [if_pos rfl, hrest]
      rfl

theorem Word.unquoted {word : String} (h : Word word) : Unquoted word := by
  intro hmem
  exact absurd (h.2 _ hmem) (by decide)

/-- **A conjunction of predicates is read back** as the comparisons that they stand for. -/
theorem readCondition_conjunction {predicates : List Predicate} (hsome : predicates ≠ [])
    (h : ∀ p ∈ predicates, p.Readable) :
    readCondition ("WHERE " ++ Predicate.conjunction predicates) =
      some (predicates.map Predicate.comparison) := by
  have hsound : Sound (conjunctionTokens predicates) :=
    sound_conjunction fun p hp name hname => ((h p hp).words name hname).unquoted
  have hscan : scan ("WHERE " ++ Predicate.conjunction predicates) =
      some (marks "WHERE " ++ conjunctionTokens predicates) := by
    refine scan_of_render (hsound.marks_append (by decide)) ?_
    rw [render_append, render_marks, render_conjunction, String.toList_append]
  have hfirst : lex (marks "WHERE") = some [.word "WHERE"] := rfl
  have hlex := lex_append hfirst ((lex_blank _).trans (lex_conjunction h)) rfl
  rw [← List.append_assoc, ← marks_append] at hlex
  rw [readCondition, hscan]
  simp only [Option.bind_eq_bind, Option.bind_some]
  rw [show "WHERE" ++ " " = "WHERE " from rfl] at hlex
  rw [hlex]
  exact conjunction_lexemes hsome h

end Indicator.Sql
