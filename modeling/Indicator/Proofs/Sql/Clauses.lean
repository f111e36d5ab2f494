import Indicator.Proofs.Sql.Meaning

/-!
# Reading queries back

The clauses of a query for an indicator around its condition, read as words, values and signs. With
the condition they make up the lexemes of the whole text.

* `Kpi.Readable`: the names of an indicator are words. Those that can be asked for have such names.
* `Kpi.selection`, `Grouping.groups`, `Grouping.orders`: the lexemes that the clauses are meant to
  have. `Kpi.scan_select`, `Kpi.lex_select`, `Grouping.lex_grouping`, `Grouping.lex_order`: they are
  read so. `Kpi.lex_ending`: what follows the condition.
* `Kpi.lex_query`: **the text of a query is read clause by clause.**
-/

namespace Indicator

namespace Sql

/-! ### Words and signs -/

theorem Word.append {a b : String} (ha : Word a) (hb : Word b) : Word (a ++ b) := by
  constructor
  · intro hempty
    exact ha.1 (String.append_eq_empty_iff.mp hempty).1
  · rw [String.toList_append, List.forall_mem_append]
    exact ⟨ha.2, hb.2⟩

/-- A count is a word of digits. -/
theorem word_toString {n : Int} (h : 0 ≤ n) : Word (toString n) := by
  obtain ⟨k, rfl⟩ := Int.eq_ofNat_of_zero_le h
  have htext : (toString (k : Int)).toList = Nat.toDigits 10 k := by
    rw [show toString (k : Int) = toString k from rfl]
    simp
  constructor
  · intro hempty
    rw [hempty] at htext
    exact Nat.toDigits_ne_nil htext.symm
  · intro c hc
    rw [htext] at hc
    have hdigit : c.isDigit = true := Nat.isDigit_of_mem_toDigits (by decide) (by decide) hc
    simp [isWordChar, isIdentifierChar, Char.isAlphanum, hdigit]

theorem lex_opening (tokens : List Token) :
    lex (marks "(" ++ tokens) = (lex tokens).map (.opening :: ·) := by
  simp [marks, lex, lexFrom, isWordChar, isIdentifierChar, Lexeme.ofSign?]

theorem lex_comma (tokens : List Token) :
    lex (marks ", " ++ tokens) = (lex tokens).map (.comma :: ·) := by
  simp [marks, lex, lexFrom, isWordChar, isIdentifierChar, Lexeme.ofSign?]

/-- Clauses side by side are read one after another. -/
theorem lex_clauses {parts : List String} {lexemes : List (List Lexeme)}
    (h : List.Forall₂ (fun part read => lex (marks part) = some read) parts lexemes) :
    lex (marks (" ".intercalate parts)) = some lexemes.flatten := by
  induction h with
  | nil => rfl
  | @cons part read parts lexemes hpart hparts ih =>
    cases hparts with
    | nil =>
      rw [String.intercalate_singleton, List.flatten_singleton]
      exact hpart
    | cons =>
      rw [String.intercalate_cons_cons, String.append_assoc, marks_append, marks_append,
        List.flatten_cons]
      exact lex_append hpart ((lex_blank _).trans ih) rfl

/-- An aggregate under a name. -/
theorem lex_total {aggregate column shown : String} (haggregate : Word aggregate)
    (hcolumn : Word column) (hshown : Word shown) :
    lex (marks (aggregate ++ "(" ++ column ++ ") AS " ++ shown)) =
      some [.word aggregate, .opening, .word column, .closing, .word "AS", .word shown] := by
  have hclosing : lex (marks ") AS") = some [.closing, .word "AS"] := rfl
  have hend : lex (marks ") AS" ++ (marks " " ++ marks shown)) =
      some [.closing, .word "AS", .word shown] :=
    lex_append hclosing ((lex_blank _).trans (lex_word hshown)) rfl
  have hcall : lex (marks "(" ++ (marks column ++ (marks ") AS" ++ (marks " " ++ marks shown)))) =
      some [.opening, .word column, .closing, .word "AS", .word shown] := by
    rw [lex_opening, lex_append (lex_word hcolumn) hend rfl]
    rfl
  have htext : marks (aggregate ++ "(" ++ column ++ ") AS " ++ shown) = marks aggregate ++
      (marks "(" ++ (marks column ++ (marks ") AS" ++ (marks " " ++ marks shown)))) := by
    simp only [marks_append, List.append_assoc, show marks ") AS " = marks ") AS" ++ marks " " from
      rfl]
  rw [htext]
  exact lex_append (lex_word haggregate) hcall rfl

end Sql

open Sql

/-! ### Names -/

/-- An indicator whose names are words. -/
structure Kpi.Readable (kpi : Kpi) : Prop where
  geoColumn : Word kpi.geoColumn
  measure : Word kpi.measure
  table : identifier kpi.table ≠ ""

instance (kpi : Kpi) : Decidable kpi.Readable :=
  decidable_of_iff (Word kpi.geoColumn ∧ Word kpi.measure ∧ identifier kpi.table ≠ "")
    ⟨fun h => ⟨h.1, h.2.1, h.2.2⟩, fun h => ⟨h.geoColumn, h.measure, h.table⟩⟩

/-- The indicators that can be asked for have words for names. -/
theorem Kpi.readable_of_mem {kpi : Kpi} (h : kpi ∈ kpis) : kpi.Readable := by
  have hall : ∀ known ∈ kpis, known.Readable := by decide
  exact hall kpi h

theorem Kpi.Readable.named {kpi : Kpi} (h : kpi.Readable) : kpi.Named :=
  ⟨h.measure.unquoted, h.geoColumn.unquoted⟩

theorem Kpi.Readable.currentColumn {kpi : Kpi} (h : kpi.Readable) : Word kpi.currentColumn :=
  h.measure.append (by decide)

theorem Kpi.Readable.priorColumn {kpi : Kpi} (h : kpi.Readable) : Word kpi.priorColumn :=
  h.measure.append (by decide)

theorem Aggregation.word_name (aggregation : Aggregation) : Word aggregation.name := by
  cases aggregation <;> decide

namespace Grouping

variable {kpi : Kpi}

/-- One row stands for all channels where there are none. -/
def Undivided (kpi : Kpi) (groupBy : Grouping) : Prop := groupBy = .channel ∧ kpi.hasChannel = false

instance (groupBy : Grouping) : Decidable (groupBy.Undivided kpi) :=
  inferInstanceAs (Decidable (_ ∧ _))

theorem word_expression (h : Word kpi.geoColumn) {groupBy : Grouping}
    (hdivided : ¬ groupBy.Undivided kpi) : Word (groupBy.clauses kpi).expression := by
  cases groupBy with
  | wholesaler => exact h
  | channel =>
    have hchannel : kpi.hasChannel = true := by simpa [Undivided] using hdivided
    rw [clauses, if_pos hchannel]
    exact show Word Column.channel by decide
  | _ =>
    simp only [clauses, GroupClauses.byColumn]
    decide

theorem tokens_eq (kpi : Kpi) (groupBy : Grouping) : groupBy.tokens kpi =
    if groupBy.Undivided kpi then [.literal allChannels]
    else marks (groupBy.clauses kpi).expression := rfl

theorem grouping_eq (kpi : Kpi) (groupBy : Grouping) : (groupBy.clauses kpi).grouping =
    if groupBy.Undivided kpi then "" else "GROUP BY " ++ (groupBy.clauses kpi).expression := by
  cases groupBy with
  | channel => cases hchannel : kpi.hasChannel <;> simp [clauses, Undivided, hchannel,
      GroupClauses.byColumn]
  | _ => simp [clauses, Undivided, GroupClauses.byColumn]

theorem order_eq (kpi : Kpi) (groupBy : Grouping) : (groupBy.clauses kpi).order =
    if groupBy = .time then "ORDER BY " ++ Column.month ++ " ASC" else byValue := by
  cases groupBy with
  | channel => cases hchannel : kpi.hasChannel <;> simp [clauses, hchannel, GroupClauses.byColumn]
  | _ => simp [clauses, GroupClauses.byColumn]

/-! ### Clauses -/

/-- The lexeme of what a query groups by. -/
def lexeme (kpi : Kpi) (groupBy : Grouping) : Lexeme :=
  if groupBy.Undivided kpi then .value allChannels else .word (groupBy.clauses kpi).expression

/-- The lexemes of the clause by which a query groups its rows. -/
def groups (kpi : Kpi) (groupBy : Grouping) : List Lexeme :=
  if groupBy.Undivided kpi then []
  else [.word "GROUP", .word "BY", .word (groupBy.clauses kpi).expression]

/-- The lexemes of the clause by which a query orders its rows. -/
def orders (groupBy : Grouping) : List Lexeme :=
  if groupBy = .time then [.word "ORDER", .word "BY", .word Column.month, .word "ASC"]
  else [.word "ORDER", .word "BY", .word currentAlias, .word "DESC"]

theorem lex_expression (h : Word kpi.geoColumn) (groupBy : Grouping) :
    lex (groupBy.tokens kpi) = some [groupBy.lexeme kpi] := by
  by_cases hundivided : groupBy.Undivided kpi
  · rw [tokens_eq, if_pos hundivided, lexeme, if_pos hundivided]
    rfl
  · rw [tokens_eq, if_neg hundivided, lexeme, if_neg hundivided]
    exact lex_word (word_expression h hundivided)

theorem lex_grouping (h : Word kpi.geoColumn) (groupBy : Grouping) :
    lex (marks (groupBy.clauses kpi).grouping) = some (groupBy.groups kpi) := by
  rw [grouping_eq]
  by_cases hundivided : groupBy.Undivided kpi
  · rw [if_pos hundivided, groups, if_pos hundivided]
    rfl
  · have hwords : lex (marks "GROUP BY") = some [.word "GROUP", .word "BY"] := rfl
    have hcolumn := (lex_blank _).trans (lex_word (word_expression h hundivided))
    rw [if_neg hundivided, groups, if_neg hundivided,
      show "GROUP BY " = "GROUP BY" ++ " " from rfl, String.append_assoc, marks_append,
      marks_append]
    exact lex_append hwords hcolumn rfl

theorem lex_order (kpi : Kpi) (groupBy : Grouping) :
    lex (marks (groupBy.clauses kpi).order) = some groupBy.orders := by
  rw [order_eq, orders]
  by_cases htime : groupBy = .time
  · rw [if_pos htime, if_pos htime]
    rfl
  · rw [if_neg htime, if_neg htime]
    rfl

end Grouping

namespace Kpi

variable {kpi : Kpi}

/-- The text of the totals that a query asks for, after what it groups by. -/
def totals (kpi : Kpi) : String :=
  let total (column shown : String) := kpi.aggregation.name ++ "(" ++ column ++ ") AS " ++ shown
  " AS " ++ dimensionAlias ++ ", " ++ total kpi.currentColumn currentAlias ++ ", " ++
    total kpi.priorColumn priorAlias

/-- The lexemes of what a query selects. -/
def selection (kpi : Kpi) (groupBy : Grouping) : List Lexeme :=
  let total (column shown : String) : List Lexeme :=
    [.word kpi.aggregation.name, .opening, .word column, .closing, .word "AS", .word shown]
  [.word "SELECT", groupBy.lexeme kpi, .word "AS", .word dimensionAlias, .comma] ++
    total kpi.currentColumn currentAlias ++ [.comma] ++ total kpi.priorColumn priorAlias

/-- The tokens of what a query selects. -/
def selectTokens (kpi : Kpi) (groupBy : Grouping) : List Token :=
  marks "SELECT " ++ (groupBy.tokens kpi ++ marks kpi.totals)

theorem middle_eq (kpi : Kpi) (table : String) :
    kpi.middle table = kpi.totals ++ (" FROM " ++ table ++ " WHERE ") := by
  simp only [middle, totals, String.append_assoc]

theorem lex_totals (h : kpi.Readable) : lex (marks kpi.totals) =
    some ([.word "AS", .word dimensionAlias, .comma] ++
      [.word kpi.aggregation.name, .opening, .word kpi.currentColumn, .closing, .word "AS",
        .word currentAlias] ++ [.comma] ++
      [.word kpi.aggregation.name, .opening, .word kpi.priorColumn, .closing, .word "AS",
        .word priorAlias]) := by
  have hcurrent := lex_total kpi.aggregation.word_name h.currentColumn
    (show Word currentAlias by decide)
  have hprior := lex_total kpi.aggregation.word_name h.priorColumn
    (show Word priorAlias by decide)
  have hname : lex (marks (" AS " ++ dimensionAlias)) =
      some [.word "AS", .word dimensionAlias] := rfl
  have hlast := (lex_comma _).trans (congrArg _ hprior)
  have htotals := lex_append hcurrent hlast rfl
  have hall := lex_append hname ((lex_comma _).trans (congrArg _ htotals)) rfl
  simp only [totals, marks_append, List.append_assoc] at hall ⊢
  exact hall

/-- **What a query selects is read** as the expression of its groups and two totals. -/
theorem lex_select (h : kpi.Readable) (groupBy : Grouping) :
    lex (kpi.selectTokens groupBy) = some (kpi.selection groupBy) := by
  have hbounded : Bounded (marks kpi.totals) := by
    simp only [totals, String.append_assoc, marks_append]
    rfl
  have hcolumns := lex_append (Grouping.lex_expression h.geoColumn groupBy) (lex_totals h) hbounded
  have hselect : lex (marks "SELECT") = some [.word "SELECT"] := rfl
  have hall := lex_append hselect ((lex_blank _).trans hcolumns) rfl
  rw [← List.append_assoc, ← marks_append] at hall
  exact hall

theorem scan_select (h : kpi.Readable) (request : KpiRequest) (space : Namespace) (rowLimit : Int)
    (exclusion : Option Exclusion) :
    scan (kpi.statement request space rowLimit exclusion).select =
      some (kpi.selectTokens request.groupBy) := by
  have hmiddle : Unquoted (kpi.middle "") := kpi.unquoted_middle h.named (by decide)
  rw [middle_eq] at hmiddle
  have htotals : Sound (marks kpi.totals) := sound_marks (unquoted_append.mp hmiddle).1
  have hmarked : Marked (marks kpi.totals) := by
    simp only [totals, String.append_assoc]
    rw [marks_append]
    exact marked_marks _ _ (by decide)
  refine scan_of_render (((Grouping.sound_tokens h.named request.groupBy).append htotals
    hmarked).marks_append (by decide)) ?_
  simp only [selectTokens, statement, totals, render_append, render_marks, Grouping.render_tokens,
    String.toList_append, String.toList_intercalate, List.map_cons, List.map_nil,
    List.intercalate_cons_cons, List.intercalate_singleton, List.append_assoc]

/-- The lexemes of the end of a query. -/
def ending (kpi : Kpi) (groupBy : Grouping) (cap : Int) : List Lexeme :=
  groupBy.groups kpi ++ (groupBy.orders ++ [.word "LIMIT", .word (toString cap)])

theorem lex_ending (h : kpi.Readable) (groupBy : Grouping) {cap : Int} (hcap : 0 ≤ cap) :
    lex (marks ((groupBy.clauses kpi).ending cap)) = some (kpi.ending groupBy cap) := by
  have hlimit : lex (marks ("LIMIT " ++ toString cap)) =
      some [.word "LIMIT", .word (toString cap)] := by
    have hword : lex (marks "LIMIT") = some [.word "LIMIT"] := rfl
    rw [show "LIMIT " = "LIMIT" ++ " " from rfl, String.append_assoc, marks_append, marks_append]
    exact lex_append hword ((lex_blank _).trans (lex_word (word_toString hcap))) rfl
  have horder := Grouping.lex_order kpi groupBy
  have hordered : (groupBy.clauses kpi).order ≠ "" := by
    rw [Grouping.order_eq]
    split <;> decide
  have hgrouping := Grouping.lex_grouping h.geoColumn groupBy
  rw [GroupClauses.ending, if_neg hordered, marks_append]
  refine (lex_blank _).trans ?_
  by_cases hempty : (groupBy.clauses kpi).grouping = ""
  · rw [hempty] at hgrouping
    have hgroups : groupBy.groups kpi = [] := (Option.some.inj hgrouping).symm
    rw [if_pos hempty, ending, hgroups]
    exact lex_clauses (.cons horder (.cons hlimit .nil))
  · rw [if_neg hempty, ending]
    exact lex_clauses (.cons hgrouping (.cons horder (.cons hlimit .nil)))

/-- **The text of a query is read clause by clause**: what it selects, the table, the predicates,
how it groups and orders its rows, and how many of them it asks for. -/
theorem lex_query (h : kpi.Readable) (groupBy : Grouping) {table : String} (htable : Word table)
    {predicates : List Predicate} (hpredicates : ∀ p ∈ predicates, p.Readable) {cap : Int}
    (hcap : 0 ≤ cap) :
    lex (kpi.tokens groupBy table predicates cap) =
      some (kpi.selection groupBy ++ ([.word "FROM", .word table, .word "WHERE"] ++
        ([.word "AND"].intercalate (predicates.map Predicate.lexemes) ++
          kpi.ending groupBy cap))) := by
  have hbounded : Bounded (marks ((groupBy.clauses kpi).ending cap)) := by
    rw [GroupClauses.ending, marks_append]
    rfl
  have hcondition := lex_append (lex_conjunction hpredicates) (lex_ending h groupBy hcap) hbounded
  have hwhere : lex (marks " WHERE") = some [.word "WHERE"] := rfl
  have hafter := lex_append hwhere ((lex_blank _).trans hcondition) rfl
  have hnamed := lex_append (lex_word htable) hafter rfl
  have hfrom : lex (marks " FROM") = some [.word "FROM"] := rfl
  have hsource := lex_append hfrom ((lex_blank _).trans hnamed) rfl
  have hall := lex_append (lex_select h groupBy) hsource rfl
  have htokens : kpi.tokens groupBy table predicates cap = kpi.selectTokens groupBy ++
      (marks " FROM" ++ (marks " " ++ (marks table ++ (marks " WHERE" ++ (marks " " ++
        (conjunctionTokens predicates ++ marks ((groupBy.clauses kpi).ending cap))))))) := by
    simp only [tokens, selectTokens, middle_eq, marks_append, List.append_assoc,
      show marks " FROM " = marks " FROM" ++ marks " " from rfl,
      show marks " WHERE " = marks " WHERE" ++ marks " " from rfl]
  rw [htokens]
  exact hall

end Kpi

/-! ### Statements -/

theorem KpiRequest.statement_of_find {request : KpiRequest} {kpi : Kpi}
    (hkpi : Kpi.find? request.kpi = some kpi) (space : Namespace) (rowLimit : Int)
    (exclusion : Option Exclusion) :
    request.statement space rowLimit exclusion =
      .ok (kpi.statement request space rowLimit exclusion) := by
  rw [statement, resolveKpi, hkpi]
  rfl

/-- Which columns filters apply to does not depend on their values. -/
theorem Filters.map_columns (kpi : Kpi) (filters : Filters) :
    (filters.columns kpi).map (·.1) = [Column.megabrand, Column.region, Column.state,
      kpi.geoColumn] ++ if kpi.hasChannel then [Column.channel] else [] := by
  cases hchannel : kpi.hasChannel <;> simp [columns, hchannel]

/-- The predicates of a statement can be read. -/
theorem Kpi.Readable.predicates {kpi : Kpi} (h : kpi.Readable) (request : KpiRequest)
    (space : Namespace) (exclusion : Option Exclusion) :
    ∀ p ∈ Indicator.predicates kpi (space.table kpi.table) request.scope request.maxMonth
      request.filters exclusion, p.Readable :=
  readable_predicates (word_tableName space.catalog space.schema h.table) h.geoColumn request.scope
    request.maxMonth request.filters exclusion

/-- The condition of a statement is read as the comparisons of its predicates. -/
theorem Kpi.readCondition_statement {kpi : Kpi} (h : kpi.Readable) (request : KpiRequest)
    (space : Namespace) (rowLimit : Int) (exclusion : Option Exclusion) :
    readCondition (kpi.statement request space rowLimit exclusion).condition =
      some ((predicates kpi (space.table kpi.table) request.scope request.maxMonth request.filters
        exclusion).map Predicate.comparison) :=
  readCondition_conjunction (by simp [Indicator.predicates]) (h.predicates request space exclusion)

end Indicator
