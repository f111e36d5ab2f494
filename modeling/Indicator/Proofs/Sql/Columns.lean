import Indicator.Proofs.Sql.Clauses

/-!
# The columns of queries

Which columns a query names, the warehouse taking names for the same that differ in the case of
letters. An indicator that is not recorded by channel has no such column.

* `words?`: the words of a clause. `Comparison.columns`: the columns that a comparison names.
* `forall_word_clauses`: no word around the condition is the name of the channel.
* `KpiRequest.columns_predicates`: when a predicate of a request names the channel.
* `KpiRequest.channel_unqueried`: **an indicator without channels is queried on the channel only by
  an exclusion that spells it in other letters.**
-/

namespace Indicator

namespace Sql

/-! ### Names in clauses -/

/-- Names of the same column: the case of ASCII letters does not matter. -/
def SameName (a b : String) : Prop := Text.lowerAscii a = Text.lowerAscii b

instance (a b : String) : Decidable (SameName a b) :=
  inferInstanceAs (Decidable (Text.lowerAscii a = Text.lowerAscii b))

/-- The text of a word. -/
def Lexeme.word? : Lexeme → Option String
  | word text => some text
  | _ => none

/-- The words of a clause. Those that are no keywords name the columns, the functions, and what the
columns of the answer are called. -/
def words? (clause : String) : Option (List String) := do
  let lexemes ← lex (← scan clause)
  return lexemes.filterMap Lexeme.word?

/-- The columns that a comparison names. -/
def Comparison.columns : Comparison → List String
  | numbers _ _ => []
  | equal column _ | different column _ | between column _ _ | oneOf column _ | present column =>
    [column]
  | .greatest column source _ => [column, source]

theorem words_of_scan {clause : String} {tokens : List Token} {lexemes : List Lexeme}
    (hscan : scan clause = some tokens) (hlex : lex tokens = some lexemes) :
    words? clause = some (lexemes.filterMap Lexeme.word?) := by
  simp only [words?, hscan, hlex, Option.bind_eq_bind, Option.bind_some]
  rfl

end Sql

open Sql

/-! ### Around the condition -/

theorem forall_word_clauses {kpi : Kpi} (hmem : kpi ∈ kpis) (hchannel : kpi.hasChannel = false)
    (groupBy : Grouping) :
    ∀ lexemes ∈ [kpi.selection groupBy, groupBy.groups kpi, groupBy.orders],
      ∀ word ∈ lexemes.filterMap Lexeme.word?, ¬ SameName word Column.channel := by
  have hall : ∀ known ∈ kpis, known.hasChannel = false → ∀ grouping ∈ Grouping.all,
      ∀ lexemes ∈ [known.selection grouping, grouping.groups known, grouping.orders],
        ∀ word ∈ lexemes.filterMap Lexeme.word?, ¬ SameName word Column.channel := by
    decide +kernel
  exact hall kpi hmem hchannel groupBy (by cases groupBy <;> decide)

theorem Kpi.words_clauses {kpi : Kpi} (h : kpi.Readable) (request : KpiRequest)
    (space : Namespace) (rowLimit : Int) (exclusion : Option Exclusion) {statement : Statement}
    (hstatement : statement = kpi.statement request space rowLimit exclusion) :
    [statement.select, statement.grouping, statement.order].map words? =
      [kpi.selection request.groupBy, request.groupBy.groups kpi, request.groupBy.orders].map
        fun lexemes => some (lexemes.filterMap Lexeme.word?) := by
  obtain ⟨-, hgrouping, horder⟩ := Grouping.unquoted_clauses h.named request.groupBy
  have hselect := words_of_scan (kpi.scan_select h request space rowLimit exclusion)
    (kpi.lex_select h request.groupBy)
  have hgroups := words_of_scan (scan_unquoted hgrouping)
    (Grouping.lex_grouping h.geoColumn request.groupBy)
  have horders := words_of_scan (scan_unquoted horder) (request.groupBy.lex_order kpi)
  subst hstatement
  exact congrArg₂ List.cons hselect (congrArg₂ List.cons hgroups (congrArg₂ List.cons horders rfl))

/-! ### In the condition -/

/-- An exclusion that names the channel in other letters. -/
def Exclusion.Respells (exclusion : Exclusion) : Prop :=
  SameName (identifier exclusion.column) Column.channel ∧
    identifier exclusion.column ≠ Column.channel

theorem Scope.columns_predicate (scope : Scope) (maxMonth : Option String) (table : String) :
    ∀ column ∈ (scope.predicate maxMonth table).comparison.columns, column = Column.month := by
  unfold predicate
  cases normalMonth maxMonth with
  | none => simp [Predicate.comparison, Comparison.columns]
  | some last =>
    dsimp only
    split
    · simp [Predicate.comparison, Comparison.columns]
    · simp [Predicate.comparison, Comparison.columns]

theorem KpiRequest.columns_predicates (request : KpiRequest) {kpi : Kpi} (hmem : kpi ∈ kpis)
    (hchannel : kpi.hasChannel = false) (table : String) (exclusion : Option Exclusion) :
    (∃ column ∈ (predicates kpi table request.scope request.maxMonth request.filters
        exclusion).flatMap fun p => p.comparison.columns, SameName column Column.channel) ↔
      ∃ found, exclusion = some found ∧ found.Respells := by
  have hothers : ∀ known ∈ kpis, ∀ column ∈ [Column.month, Column.megabrand, Column.region,
      Column.state, known.geoColumn], ¬ SameName column Column.channel := by decide
  have hnot := hothers kpi hmem
  have hnames : (request.filters.columns kpi).map (·.1) =
      [Column.megabrand, Column.region, Column.state, kpi.geoColumn] := by
    rw [Filters.map_columns, hchannel]
    rfl
  constructor
  · rintro ⟨column, hcolumn, hsame⟩
    obtain ⟨p, hp, hcolumn⟩ := List.mem_flatMap.mp hcolumn
    rcases mem_predicates.mp hp with
      rfl | rfl | ⟨pair, hpair, -, rfl⟩ | ⟨found, hfound, -, hkept, rfl⟩
    · cases hcolumn
    · rw [request.scope.columns_predicate request.maxMonth table column hcolumn] at hsame
      exact absurd hsame (hnot _ List.mem_cons_self)
    · rw [List.mem_singleton.mp hcolumn] at hsame
      have hlisted : pair.1 ∈ (request.filters.columns kpi).map (·.1) := List.mem_map_of_mem hpair
      rw [hnames] at hlisted
      exact absurd hsame (hnot pair.1 (List.mem_cons_of_mem _ hlisted))
    · -- The exclusion is left out only under the very name of the column.
      rw [List.mem_singleton.mp hcolumn] at hsame
      refine ⟨found, hfound, hsame, ?_⟩
      intro hexact
      exact absurd (hkept hexact) (by simp [hchannel])
  · rintro ⟨found, hfound, hsame, hdifferent⟩
    have hnonempty : identifier found.column ≠ "" := by
      intro hempty
      rw [hempty] at hsame
      exact absurd hsame (by decide)
    have hp : .different (identifier found.column) found.value ∈
        predicates kpi table request.scope request.maxMonth request.filters exclusion :=
      mem_predicates.mpr (.inr (.inr (.inr ⟨found, hfound, hnonempty,
        fun hexact => absurd hexact hdifferent, rfl⟩)))
    exact ⟨_, List.mem_flatMap.mpr ⟨_, hp, List.mem_singleton_self _⟩, hsame⟩

/-! ### Queries -/

/-- **An indicator without channels is not queried on the channel**, whatever the grouping, the
filters and the exclusion: neither by what the query selects, groups by or orders by, nor by its
condition, unless the exclusion spells the channel in other letters. -/
theorem KpiRequest.channel_unqueried (request : KpiRequest) (space : Namespace) (rowLimit : Int)
    (exclusion : Option Exclusion) {kpi : Kpi} (hkpi : Kpi.find? request.kpi = some kpi)
    (hchannel : kpi.hasChannel = false) :
    ∃ statement comparisons, request.statement space rowLimit exclusion = .ok statement ∧
      (∀ clause ∈ [statement.select, statement.grouping, statement.order], ∃ words,
        words? clause = some words ∧ ∀ word ∈ words, ¬ SameName word Column.channel) ∧
      readCondition statement.condition = some comparisons ∧
      ((∃ column ∈ comparisons.flatMap Comparison.columns, SameName column Column.channel) ↔
        ∃ found, exclusion = some found ∧ SameName (identifier found.column) Column.channel ∧
          identifier found.column ≠ Column.channel) := by
  have hmem : kpi ∈ kpis := List.mem_of_find?_eq_some hkpi
  have hreadable := Kpi.readable_of_mem hmem
  refine ⟨_, _, statement_of_find hkpi space rowLimit exclusion, ?_,
    kpi.readCondition_statement hreadable request space rowLimit exclusion, ?_⟩
  · intro clause hclause
    have hwords := List.mem_map_of_mem (f := words?) hclause
    rw [Kpi.words_clauses hreadable request space rowLimit exclusion rfl] at hwords
    obtain ⟨lexemes, hlexemes, heq⟩ := List.mem_map.mp hwords
    exact ⟨_, heq.symm, forall_word_clauses hmem hchannel request.groupBy lexemes hlexemes⟩
  · rw [List.flatMap_map]
    exact request.columns_predicates hmem hchannel (space.table kpi.table) exclusion

/-- The displays are not queried on the channel, neither when they are asked for by channel and
filtered by it, nor when a channel is excluded under its name. -/
theorem KpiRequest.channel_unqueried_displays :
    ∃ statement comparisons, KpiRequest.statement ⟨true, "displays", .channel, .yearToDate, none,
        ⟨[], [], [], ["7"], ["channel", "' OR channel = '"]⟩⟩ ⟨"main", "kpi"⟩ 10
        (some ⟨"channel;", "channel"⟩) = .ok statement ∧
      (∀ clause ∈ [statement.select, statement.grouping, statement.order], ∃ words,
        words? clause = some words ∧ ∀ word ∈ words, ¬ SameName word Column.channel) ∧
      readCondition statement.condition = some comparisons ∧
      ∀ column ∈ comparisons.flatMap Comparison.columns, ¬ SameName column Column.channel := by
  have hkpi : Kpi.find? "displays" = some ⟨"displays", "mbmc_actuals_displays", "displays", .sum,
      false, Column.keyAccountManager⟩ := by rfl
  obtain ⟨statement, comparisons, hstatement, hwords, hread, hcolumns⟩ :=
    KpiRequest.channel_unqueried ⟨true, "displays", .channel, .yearToDate, none,
      ⟨[], [], [], ["7"], ["channel", "' OR channel = '"]⟩⟩ ⟨"main", "kpi"⟩ 10
      (some ⟨"channel;", "channel"⟩) hkpi rfl
  refine ⟨statement, comparisons, hstatement, hwords, hread, ?_⟩
  intro column hcolumn hsame
  obtain ⟨found, hfound, -, hdifferent⟩ := hcolumns.mp ⟨column, hcolumn, hsame⟩
  cases hfound
  exact hdifferent (by decide)

/-- A capital letter in the column of an exclusion makes a query compare a channel that the
indicator does not have. -/
theorem KpiRequest.channel_queried :
    ∃ kpi statement comparisons, Kpi.find? "distro" = some kpi ∧ kpi.hasChannel = false ∧
      KpiRequest.statement ⟨false, "distro", .time, .yearToDate, none, ⟨[], [], [], [], []⟩⟩
        ⟨"commercial_dev", "capabilities"⟩ 500 (some ⟨"Channel", "x"⟩) = .ok statement ∧
      readCondition statement.condition = some comparisons ∧
      .different "Channel" "x" ∈ comparisons ∧ SameName "Channel" Column.channel := by
  have hkpi : Kpi.find? "distro" = some ⟨"distro", "mbmc_actuals_distro", "distro_pts", .sum, false,
      Column.wholesaler⟩ := by rfl
  refine ⟨_, _, _, hkpi, rfl, statement_of_find hkpi _ _ _,
    Kpi.readCondition_statement (Kpi.readable_of_mem (List.mem_of_find?_eq_some hkpi)) _ _ _ _, ?_,
    by decide⟩
  decide

end Indicator
