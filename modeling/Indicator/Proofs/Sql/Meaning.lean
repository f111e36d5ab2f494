import Indicator.Proofs.Sql.Reading

/-!
# What conditions mean

The condition of a statement, read as comparisons and evaluated on a row, selects the rows that the
request asks for.

* `KpiRequest.Selects`: what a request asks of a row, told without predicates.
* `Scope.eval_predicate`, `eval_among`, `eval_exclusion`: what the predicates of each part say of a
  row.
* `KpiRequest.condition_selects`: **the condition of a statement means what the request asks for.**
-/

namespace Indicator

namespace Sql

/-! ### Words -/

theorem isWordChar_of_isIdentifierChar {c : Char} (h : isIdentifierChar c) : isWordChar c := by
  rw [isWordChar, h, Bool.true_or]

theorem isIdentifierChar_of_mem {text : String} {c : Char} (h : c ∈ (identifier text).toList) :
    isIdentifierChar c := by
  rw [identifier, String.toList_ofList, List.mem_filter] at h
  exact h.2

theorem word_identifier {text : String} (h : identifier text ≠ "") : Word (identifier text) :=
  ⟨h, fun _ hc => isWordChar_of_isIdentifierChar (isIdentifierChar_of_mem hc)⟩

theorem intercalate_ne_empty {separator part : String} {parts : List String} (hmem : part ∈ parts)
    (hpart : part ≠ "") : separator.intercalate parts ≠ "" := by
  induction parts with
  | nil => cases hmem
  | cons first parts ih =>
    cases parts with
    | nil =>
      rw [List.mem_singleton.mp hmem] at hpart
      rwa [String.intercalate_singleton]
    | cons next parts =>
      rw [String.intercalate_cons_cons]
      intro hempty
      rw [String.append_eq_empty_iff, String.append_eq_empty_iff] at hempty
      rcases List.mem_cons.mp hmem with rfl | hmem
      · exact hpart hempty.1.1
      · exact ih hmem hempty.2

/-- The name of a table is a word, as it keeps the last of its parts. -/
theorem word_tableName (catalog schema : String) {table : String} (h : identifier table ≠ "") :
    Word (tableName catalog schema table) := by
  constructor
  · refine intercalate_ne_empty (List.mem_filter.mpr ⟨?_, decide_eq_true h⟩) h
    simp
  · refine Text.forall_mem_intercalate (List.all_eq_true.mp (by decide)) ?_
    intro part hpart c hc
    obtain ⟨text, -, rfl⟩ := List.mem_map.mp (List.mem_filter.mp hpart).1
    exact isWordChar_of_isIdentifierChar (isIdentifierChar_of_mem hc)

end Sql

open Sql

/-! ### What a request asks for -/

/-- **The months of a scope.** Without a month it is the latest one. With a calendar month it is the
months of its year up to it, if these are asked for, and else the month itself. -/
def Scope.Covers (scope : Scope) (maxMonth : Option String) (latest month : String) : Prop :=
  match normalMonth maxMonth with
  | none => month = latest
  | some last =>
    if scope = .yearToDate ∧ isCalendarMonth last then januaryOf last ≤ month ∧ month ≤ last
    else month = last

/-- A value that a filter lets through; an empty one lets every value through. -/
def Passes (values : List String) (value : String) : Prop := values = [] ∨ value ∈ values

/-- A row that an exclusion spares. -/
def Exclusion.Spares (kpi : Kpi) (exclusion : Exclusion) (row : String → String) : Prop :=
  identifier exclusion.column = "" ∨
    (identifier exclusion.column = Column.channel ∧ kpi.hasChannel = false) ∨
    row (identifier exclusion.column) ≠ exclusion.value

/-- **The rows that a request asks for**, `latest` being the latest month of the table. -/
structure KpiRequest.Selects (request : KpiRequest) (kpi : Kpi) (latest : String)
    (exclusion : Option Exclusion) (row : String → String) : Prop where
  month : request.scope.Covers request.maxMonth latest (row Column.month)
  megabrand : Passes request.filters.megabrand (row Column.megabrand)
  region : Passes request.filters.region (row Column.region)
  state : Passes request.filters.state (row Column.state)
  wholesaler : Passes request.filters.wholesalerId (row kpi.geoColumn)
  channel : kpi.hasChannel = true → Passes request.filters.channel (row Column.channel)
  spared : ∀ found, exclusion = some found → found.Spares kpi row

/-! ### What predicates say -/

variable {greatest : String → String → String} {row : String → String}

theorem Scope.eval_predicate (scope : Scope) (maxMonth : Option String) (table : String) :
    (scope.predicate maxMonth table).comparison.eval greatest row = true ↔
      scope.Covers maxMonth (greatest Column.month table) (row Column.month) := by
  unfold predicate Covers
  cases normalMonth maxMonth with
  | none => simp [Predicate.comparison, Comparison.eval]
  | some last =>
    dsimp only
    split
    · simp [Predicate.comparison, Comparison.eval]
    · simp [Predicate.comparison, Comparison.eval]

theorem eval_among (columns : List (String × List String)) :
    (((columns.filterMap fun pair => Predicate.among? pair.1 pair.2).map
      Predicate.comparison).all (Comparison.eval greatest row)) = true ↔
      ∀ pair ∈ columns, Passes pair.2 (row pair.1) := by
  induction columns with
  | nil => simp
  | cons pair columns ih =>
    obtain ⟨column, values⟩ := pair
    rw [List.forall_mem_cons, ← ih]
    cases values with
    | nil =>
      have hnone : Predicate.among? column [] = none := rfl
      simp [hnone, Passes]
    | cons value values =>
      have hsome : Predicate.among? column (value :: values) =
          some (.oneOf column (value :: values)) := rfl
      simp [hsome, Passes, Predicate.comparison, Comparison.eval]

theorem eval_exclusion (kpi : Kpi) (exclusion : Option Exclusion) :
    (((exclusion.bind (·.predicate? kpi)).toList.map Predicate.comparison).all
      (Comparison.eval greatest row)) = true ↔
      ∀ found, exclusion = some found → found.Spares kpi row := by
  cases exclusion with
  | none => simp
  | some found =>
    simp only [Option.bind_some, Option.some.injEq, forall_eq', Exclusion.predicate?,
      Exclusion.Spares, ← or_assoc]
    split
    · rename_i hnone
      simp [hnone]
    · rename_i hsome
      simp [hsome, Predicate.comparison, Comparison.eval]

theorem forall_columns (kpi : Kpi) (filters : Filters) :
    (∀ pair ∈ filters.columns kpi, Passes pair.2 (row pair.1)) ↔
      Passes filters.megabrand (row Column.megabrand) ∧ Passes filters.region (row Column.region) ∧
      Passes filters.state (row Column.state) ∧ Passes filters.wholesalerId (row kpi.geoColumn) ∧
      (kpi.hasChannel = true → Passes filters.channel (row Column.channel)) := by
  cases hchannel : kpi.hasChannel with
  | true => simp [Filters.columns, hchannel]
  | false => simp [Filters.columns, hchannel]

/-- The predicates of a request hold of the rows that it asks for. -/
theorem KpiRequest.eval_predicates (request : KpiRequest) (kpi : Kpi) (table : String)
    (exclusion : Option Exclusion) :
    (((predicates kpi table request.scope request.maxMonth request.filters exclusion).map
      Predicate.comparison).all (Comparison.eval greatest row)) = true ↔
      request.Selects kpi (greatest Column.month table) exclusion row := by
  have hfirst : ([Predicate.always, request.scope.predicate request.maxMonth table].map
      Predicate.comparison).all (Comparison.eval greatest row) = true ↔
      request.scope.Covers request.maxMonth (greatest Column.month table) (row Column.month) := by
    rw [← Scope.eval_predicate]
    simp [Predicate.comparison, Comparison.eval]
  rw [predicates, List.map_append, List.map_append, List.all_append, List.all_append,
    Bool.and_eq_true, Bool.and_eq_true, hfirst, eval_among, eval_exclusion, forall_columns]
  constructor
  · rintro ⟨⟨hmonth, hmegabrand, hregion, hstate, hwholesaler, hchannel⟩, hspared⟩
    exact ⟨hmonth, hmegabrand, hregion, hstate, hwholesaler, hchannel, hspared⟩
  · intro h
    exact ⟨⟨h.month, h.megabrand, h.region, h.state, h.wholesaler, h.channel⟩, h.spared⟩

/-! ### Conditions -/

/-- The indicators that can be asked for have words for names. -/
theorem Kpi.words_of_find {name : String} {kpi : Kpi} (h : Kpi.find? name = some kpi) :
    Word kpi.geoColumn ∧ identifier kpi.table ≠ "" := by
  have hall : ∀ known ∈ kpis, Word known.geoColumn ∧ identifier known.table ≠ "" := by decide
  exact hall kpi (List.mem_of_find?_eq_some h)

theorem readable_predicates {kpi : Kpi} {table : String} (htable : Word table)
    (hgeo : Word kpi.geoColumn) (scope : Scope) (maxMonth : Option String) (filters : Filters)
    (exclusion : Option Exclusion) :
    ∀ p ∈ predicates kpi table scope maxMonth filters exclusion, p.Readable := by
  intro p hp
  refine ⟨names_predicates htable (by decide) hgeo (fun _ h => word_identifier h) scope maxMonth
    filters exclusion p hp, ?_⟩
  rintro column rfl
  rcases mem_predicates.mp hp with
    hfirst | hscope | ⟨pair, -, hvalues, hamong⟩ | ⟨found, -, -, -, hexclusion⟩
  · cases hfirst
  · unfold Scope.predicate at hscope
    split at hscope
    · cases hscope
    · split at hscope <;> cases hscope
  · exact hvalues (Predicate.oneOf.inj hamong).2.symm
  · cases hexclusion

/-- **The condition of a statement means what the request asks for.** It can be read as comparisons,
and all of these hold of a row if and only if the request asks for it. -/
theorem KpiRequest.condition_selects (request : KpiRequest) (space : Namespace) (rowLimit : Int)
    (exclusion : Option Exclusion) {kpi : Kpi} (hkpi : Kpi.find? request.kpi = some kpi) :
    ∃ statement comparisons, request.statement space rowLimit exclusion = .ok statement ∧
      readCondition statement.condition = some comparisons ∧
      ∀ (greatest : String → String → String) (row : String → String),
        comparisons.all (Comparison.eval greatest row) = true ↔
          request.Selects kpi (greatest Column.month (space.table kpi.table)) exclusion row := by
  obtain ⟨hgeo, hnamed⟩ := Kpi.words_of_find hkpi
  have htable : Word (space.table kpi.table) := word_tableName space.catalog space.schema hnamed
  have hreadable := readable_predicates htable hgeo request.scope request.maxMonth request.filters
    exclusion
  refine ⟨kpi.statement request space rowLimit exclusion, _, ?_,
    readCondition_conjunction (by simp [predicates]) hreadable, ?_⟩
  · rw [statement, resolveKpi, hkpi]
    rfl
  · intro greatest row
    exact request.eval_predicates kpi (space.table kpi.table) exclusion

/-- The condition of a request whose value tries to end its literal, with an excluded column whose
name is a number, selects a row by its values. -/
theorem KpiRequest.condition_selects_hostile :
    Kpi.find? "distro" = some ⟨"distro", "mbmc_actuals_distro", "distro_pts", .sum, false,
        Column.wholesaler⟩ ∧
      ∃ statement comparisons, KpiRequest.statement ⟨false, "distro", .time, .yearToDate,
          some "202506", ⟨["' OR 1 = 1 --"], [], [], [], ["ignored"]⟩⟩ ⟨"main", "kpi"⟩ 10
          (some ⟨"1;", "\\"⟩) = .ok statement ∧
        readCondition statement.condition = some comparisons ∧
        comparisons.all (Comparison.eval (fun _ _ => "202507") fun column =>
          if column = "megabrand" then "' OR 1 = 1 --" else "202501") = true ∧
        comparisons.all (Comparison.eval (fun _ _ => "202507") fun column =>
          if column = "1" then "\\" else if column = "megabrand" then "' OR 1 = 1 --"
          else "202501") = false := by
  have hkpi : Kpi.find? "distro" = some ⟨"distro", "mbmc_actuals_distro", "distro_pts", .sum, false,
      Column.wholesaler⟩ := by rfl
  obtain ⟨statement, comparisons, hstatement, hread, hselects⟩ :=
    KpiRequest.condition_selects ⟨false, "distro", .time, .yearToDate, some "202506",
      ⟨["' OR 1 = 1 --"], [], [], [], ["ignored"]⟩⟩ ⟨"main", "kpi"⟩ 10 (some ⟨"1;", "\\"⟩) hkpi
  refine ⟨hkpi, statement, comparisons, hstatement, hread, ?_, ?_⟩
  · rw [hselects]
    refine ⟨?_, .inr (by decide), .inl rfl, .inl rfl, .inl rfl, by simp, ?_⟩
    · show januaryOf "202506" ≤ "202501" ∧ "202501" ≤ "202506"
      decide
    · rintro found hfound
      cases hfound
      exact .inr (.inr (by decide))
  · rw [Bool.eq_false_iff, ne_eq, hselects]
    intro h
    rcases h.spared _ rfl with hempty | ⟨hchannel, -⟩ | hother
    · exact absurd hempty (by decide)
    · exact absurd hchannel (by decide)
    · exact hother (by decide)

end Indicator
