import Indicator.Proofs.Sql.Clauses

/-!
# Queries tell requests apart

Two requests make the same text only where they ask for the same: the text is read back, clause by
clause, and what was read is compared.

* `KpiRequest.SameMonths`, `KpiRequest.SameQuery`: requests that ask for the same.
* `Predicate.comparison_injective`, `among_injective`, `Scope.predicate_eq_iff`: what the predicates
  of each part tell apart.
* `Kpi.eq_of_text`: one text has one indicator, one grouping and one list of predicates.
* `KpiRequest.text_eq_iff`: **two requests make the same text if and only if they ask for the
  same.**
-/

namespace Indicator

open Sql

/-! ### Requests that ask for the same -/

/-- The identifier characters of a month that may be missing. -/
def monthText (maxMonth : Option String) : String := identifier (maxMonth.getD "")

namespace KpiRequest

/-- A request for the months of a year up to a calendar month. -/
def AsksRange (request : KpiRequest) : Prop :=
  request.scope = .yearToDate ∧ isCalendarMonth (monthText request.maxMonth) = true

instance (request : KpiRequest) : Decidable request.AsksRange :=
  inferInstanceAs (Decidable (_ ∧ _))

theorem AsksRange.nonempty {request : KpiRequest} (h : request.AsksRange) :
    monthText request.maxMonth ≠ "" := by
  intro hempty
  have hcalendar := h.2
  rw [hempty] at hcalendar
  exact absurd hcalendar (by decide)

/-- **Requests for the same months**: the latest one, those up to the same calendar month, or the
same one, spelled alike but for characters outside of identifiers. -/
inductive SameMonths (first second : KpiRequest) : Prop
  | latest (hfirst : monthText first.maxMonth = "") (hsecond : monthText second.maxMonth = "")
  | range (hfirst : first.AsksRange) (hsecond : second.AsksRange)
      (heq : monthText first.maxMonth = monthText second.maxMonth)
  | single (hfirst : ¬ first.AsksRange) (hsecond : ¬ second.AsksRange)
      (hsome : monthText first.maxMonth ≠ "")
      (heq : monthText first.maxMonth = monthText second.maxMonth)

/-- **Requests that ask for the same** of an indicator: filters on the channel count only where
there are channels. -/
structure SameQuery (kpi : Kpi) (first second : KpiRequest) : Prop where
  name : first.kpi = second.kpi
  groupBy : first.groupBy = second.groupBy
  months : SameMonths first second
  megabrand : first.filters.megabrand = second.filters.megabrand
  region : first.filters.region = second.filters.region
  state : first.filters.state = second.filters.state
  wholesalerId : first.filters.wholesalerId = second.filters.wholesalerId
  channel : kpi.hasChannel = true → first.filters.channel = second.filters.channel

end KpiRequest

/-! ### What predicates tell apart -/

theorem Sql.Predicate.comparison_injective : Function.Injective Predicate.comparison := by
  intro p q h
  cases p <;> cases q <;> simp_all [Predicate.comparison]

theorem among_injective {first second : List (String × List String)}
    (hcolumns : first.map (·.1) = second.map (·.1)) (hnodup : (first.map (·.1)).Nodup)
    (h : (first.filterMap fun pair => Predicate.among? pair.1 pair.2) =
      second.filterMap fun pair => Predicate.among? pair.1 pair.2) : first = second := by
  have habsent : ∀ {column values} {columns : List (String × List String)},
      column ∉ columns.map (·.1) →
      .oneOf column values ∉ columns.filterMap fun pair => Predicate.among? pair.1 pair.2 := by
    intro column values columns hcolumn hmem
    obtain ⟨pair, hpair, hamong⟩ := List.mem_filterMap.mp hmem
    obtain ⟨-, hsame⟩ := Predicate.among?_eq_some.mp hamong
    rw [(Predicate.oneOf.inj hsame).1] at hcolumn
    exact hcolumn (List.mem_map_of_mem hpair)
  induction first generalizing second with
  | nil => exact (List.map_eq_nil_iff.mp hcolumns.symm).symm
  | cons pair first ih =>
    cases second with
    | nil => cases hcolumns
    | cons other second =>
      obtain ⟨column, values⟩ := pair
      obtain ⟨column', values'⟩ := other
      rw [List.map_cons, List.map_cons, List.cons.injEq] at hcolumns
      obtain ⟨rfl : column = column', htails⟩ := hcolumns
      rw [List.map_cons, List.nodup_cons] at hnodup
      have hsecond : column ∉ second.map (·.1) := htails ▸ hnodup.1
      have hnone : Predicate.among? column [] = none := rfl
      have hsome : ∀ value values, Predicate.among? column (value :: values) =
        some (.oneOf column (value :: values)) := fun _ _ => rfl
      cases values with
      | nil =>
        cases values' with
        | nil =>
          simp only [List.filterMap_cons, hnone] at h
          rw [ih htails hnodup.2 h]
        | cons value' values' =>
          simp only [List.filterMap_cons, hnone, hsome] at h
          exact absurd (h ▸ List.mem_cons_self) (habsent hnodup.1)
      | cons value values =>
        cases values' with
        | nil =>
          simp only [List.filterMap_cons, hnone, hsome] at h
          exact absurd (h ▸ List.mem_cons_self) (habsent hsecond)
        | cons value' values' =>
          simp only [List.filterMap_cons, hsome, List.cons.injEq, Predicate.oneOf.injEq] at h
          rw [ih htails hnodup.2 h.2, h.1.2.1, h.1.2.2]

theorem Filters.columns_eq_iff {kpi : Kpi} {first second : Filters} :
    first.columns kpi = second.columns kpi ↔
      first.megabrand = second.megabrand ∧ first.region = second.region ∧
        first.state = second.state ∧ first.wholesalerId = second.wholesalerId ∧
        (kpi.hasChannel = true → first.channel = second.channel) := by
  cases hchannel : kpi.hasChannel <;> simp [columns, hchannel]

theorem normalMonth_eq (maxMonth : Option String) : normalMonth maxMonth =
    if monthText maxMonth = "" then none else some (monthText maxMonth) := by
  cases maxMonth with
  | none => rfl
  | some text => rfl

theorem Scope.predicate_eq (request : KpiRequest) (table : String) :
    request.scope.predicate request.maxMonth table =
      if monthText request.maxMonth = "" then .latestMonth table
      else if request.AsksRange then
        .monthBetween (januaryOf (monthText request.maxMonth)) (monthText request.maxMonth)
      else .equal Column.month (monthText request.maxMonth) := by
  rw [predicate, normalMonth_eq]
  by_cases hempty : monthText request.maxMonth = ""
  · rw [if_pos hempty, if_pos hempty]
  · rw [if_neg hempty, if_neg hempty]
    rfl

theorem Scope.predicate_eq_iff {first second : KpiRequest} (table : String) :
    first.scope.predicate first.maxMonth table = second.scope.predicate second.maxMonth table ↔
      first.SameMonths second := by
  rw [predicate_eq, predicate_eq]
  constructor
  · intro h
    by_cases hfirst : monthText first.maxMonth = ""
    · by_cases hsecond : monthText second.maxMonth = ""
      · exact .latest hfirst hsecond
      · rw [if_pos hfirst, if_neg hsecond] at h
        split at h <;> cases h
    · by_cases hsecond : monthText second.maxMonth = ""
      · rw [if_neg hfirst, if_pos hsecond] at h
        split at h <;> cases h
      · rw [if_neg hfirst, if_neg hsecond] at h
        by_cases hrange : first.AsksRange <;> by_cases hrange' : second.AsksRange
        · rw [if_pos hrange, if_pos hrange'] at h
          exact .range hrange hrange' (Predicate.monthBetween.inj h).2
        · rw [if_pos hrange, if_neg hrange'] at h
          cases h
        · rw [if_neg hrange, if_pos hrange'] at h
          cases h
        · rw [if_neg hrange, if_neg hrange'] at h
          exact .single hrange hrange' hfirst (Predicate.equal.inj h).2
  · rintro (⟨hfirst, hsecond⟩ | ⟨hfirst, hsecond, heq⟩ | ⟨hfirst, hsecond, hsome, heq⟩)
    · rw [if_pos hfirst, if_pos hsecond]
    · rw [if_neg hfirst.nonempty, if_neg hsecond.nonempty, if_pos hfirst, if_pos hsecond, heq]
    · have hsome' : monthText second.maxMonth ≠ "" := heq ▸ hsome
      rw [if_neg hsome, if_neg hsome', if_neg hfirst, if_neg hsecond, heq]

/-! ### Texts -/

theorem rowCap_nonneg (limit : Int) : 0 ≤ rowCap limit := by
  unfold rowCap
  omega

/-- What a query selects tells the indicators and the groupings apart. -/
theorem Kpi.selection_injective {kpi other : Kpi} (hkpi : kpi ∈ kpis) (hother : other ∈ kpis)
    {groupBy groupBy' : Grouping} (h : kpi.selection groupBy = other.selection groupBy') :
    kpi = other ∧ groupBy = groupBy' := by
  have hall : ∀ a ∈ kpis, ∀ b ∈ kpis, ∀ g ∈ Grouping.all, ∀ g' ∈ Grouping.all,
      a.selection g = b.selection g' → a = b ∧ g = g' := by decide +kernel
  have hlisted : ∀ g : Grouping, g ∈ Grouping.all := by
    intro g
    cases g <;> decide
  exact hall kpi hkpi other hother groupBy (hlisted _) groupBy' (hlisted _) h

/-- **One text has one meaning**: its indicator, its grouping and its predicates can be read off. -/
theorem Kpi.eq_of_text {kpi other : Kpi} (hkpi : kpi ∈ kpis) (hother : other ∈ kpis)
    {first second : KpiRequest} {space : Namespace} {rowLimit : Int} {exclusion : Option Exclusion}
    (h : (kpi.statement first space rowLimit exclusion).text =
      (other.statement second space rowLimit exclusion).text) :
    kpi = other ∧ first.groupBy = second.groupBy ∧
      predicates kpi (space.table kpi.table) first.scope first.maxMonth first.filters exclusion =
        predicates other (space.table other.table) second.scope second.maxMonth second.filters
          exclusion := by
  have hread : ∀ {kpi : Kpi} (request : KpiRequest), kpi ∈ kpis →
      (scan (kpi.statement request space rowLimit exclusion).text).bind lex =
        some (kpi.selection request.groupBy ++ ([.word "FROM", .word (space.table kpi.table),
          .word "WHERE"] ++ ([.word "AND"].intercalate ((predicates kpi (space.table kpi.table)
            request.scope request.maxMonth request.filters exclusion).map Predicate.lexemes) ++
            kpi.ending request.groupBy (rowCap rowLimit)))) := by
    intro kpi request hmem
    have hreadable := Kpi.readable_of_mem hmem
    have htable : Word (space.table kpi.table) := word_tableName _ _ hreadable.table
    have hpredicates := hreadable.predicates request space exclusion
    have hsound := Kpi.sound_tokens hreadable.named request.groupBy htable.unquoted
      (fun p hp name hname => ((hpredicates p hp).words name hname).unquoted) (rowCap rowLimit)
    rw [scan_of_render hsound (kpi.text_eq_render request space rowLimit exclusion),
      Option.bind_some, Kpi.lex_query hreadable _ htable hpredicates (rowCap_nonneg rowLimit)]
  have hlexemes := hread first hkpi
  rw [h, hread second hother, Option.some.injEq] at hlexemes
  have hlength : (other.selection second.groupBy).length = (kpi.selection first.groupBy).length :=
    rfl
  obtain ⟨hselection, hrest⟩ := List.append_inj hlexemes hlength
  obtain ⟨rfl, hgroupBy⟩ := Kpi.selection_injective hother hkpi hselection
  rw [hgroupBy] at hrest
  have hconjunction := List.append_cancel_right (List.append_cancel_left hrest)
  have hcomparisons := congrArg conjunction? hconjunction
  have hreadable := Kpi.readable_of_mem hkpi
  rw [conjunction_lexemes (by simp [predicates]) (hreadable.predicates first space exclusion),
    conjunction_lexemes (by simp [predicates]) (hreadable.predicates second space exclusion),
    Option.some.injEq] at hcomparisons
  exact ⟨rfl, hgroupBy.symm, (List.map_injective_iff.mpr Predicate.comparison_injective
    hcomparisons).symm⟩

/-- The predicates of two requests are the same where the months and the filters are. -/
theorem predicates_eq_iff {kpi : Kpi} (hkpi : kpi ∈ kpis) {first second : KpiRequest}
    (table : String) (exclusion : Option Exclusion) :
    predicates kpi table first.scope first.maxMonth first.filters exclusion =
        predicates kpi table second.scope second.maxMonth second.filters exclusion ↔
      first.SameMonths second ∧ first.filters.columns kpi = second.filters.columns kpi := by
  have hdistinct : ∀ known ∈ kpis, ([Column.megabrand, Column.region, Column.state,
      known.geoColumn] ++ if known.hasChannel then [Column.channel] else []).Nodup := by decide
  rw [← Scope.predicate_eq_iff table]
  constructor
  · intro h
    have hparts := List.append_cancel_right h
    rw [List.cons_append, List.cons_append, List.cons_append, List.cons_append, List.cons.injEq,
      List.cons.injEq] at hparts
    refine ⟨hparts.2.1, among_injective ?_ ?_ hparts.2.2⟩
    · rw [Filters.map_columns, Filters.map_columns]
    · rw [Filters.map_columns]
      exact hdistinct kpi hkpi
  · rintro ⟨hmonths, hcolumns⟩
    rw [predicates, predicates, hmonths, hcolumns]

end Indicator
