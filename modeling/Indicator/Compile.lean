import Indicator.Failure
import Indicator.Request.Basic
import Indicator.Sql.Predicate
import Indicator.Sql.Statement

/-!
# From requests to statements

A request for an indicator becomes one aggregate query over the table of the indicator, a request
for options one query for the values of a column. The rows are selected by a list of predicates:
the months in scope, one predicate for each filter that is set, and the exclusion of a category.
-/

namespace Indicator

open Sql (Predicate Statement)

/-! ### Look-up -/

def resolveKpi (name : String) : Except Failure Kpi :=
  match Kpi.find? name with
  | some kpi => .ok kpi
  | none => .error (.unknownKpi name)

def resolveSource (dimension table : String) : Except Failure (String × String) :=
  if isListed dimension table then .ok (dimension, table)
  else .error (.unlistedSource dimension table)

/-! ### Groups -/

/-- How a query groups and orders its rows; an empty clause is left out. -/
structure GroupClauses where
  expression : String
  grouping : String
  order : String
  label : String
deriving DecidableEq, Repr

def currentAlias : String := "value_current"
def priorAlias : String := "value_prior"
def dimensionAlias : String := "dimension"
def optionAlias : String := "label"

/-- The label of the one row of an indicator that is not recorded by channel. -/
def allChannels : String := "All Channels"

/-- The largest current value comes first. -/
def byValue : String := "ORDER BY " ++ currentAlias ++ " DESC"

/-- One row for each value of a column. -/
def GroupClauses.byColumn (column order : String) : GroupClauses :=
  ⟨column, "GROUP BY " ++ column, order, column⟩

/-- The clauses of a grouping. An indicator that is not recorded by channel has a single row for
all channels. -/
def Grouping.clauses (kpi : Kpi) : Grouping → GroupClauses
  | time => .byColumn Column.month ("ORDER BY " ++ Column.month ++ " ASC")
  | megabrand => .byColumn Column.megabrand byValue
  | region => .byColumn Column.region byValue
  | state => .byColumn Column.state byValue
  | wholesaler => .byColumn kpi.geoColumn byValue
  | channel =>
    if kpi.hasChannel then .byColumn Column.channel byValue
    else ⟨Sql.literal allChannels, "", byValue, allChannels⟩

def resolveGrouping (name : String) (kpi : Kpi) : Except Failure GroupClauses :=
  match Grouping.ofName? name with
  | some grouping => .ok (grouping.clauses kpi)
  | none => .error (.unsupportedGrouping name)

/-! ### Predicates -/

/-- The identifier characters of a month, if there are any. -/
def normalMonth (maxMonth : Option String) : Option String :=
  maxMonth.bind fun text =>
    let month := Sql.identifier text
    if month = "" then none else some month

/-- Six digits, four of them the year. -/
def isCalendarMonth (month : String) : Bool :=
  month.length = 6 && month.toList.all Char.isDigit

/-- The first month of the year of a calendar month. -/
def januaryOf (month : String) : String := String.ofList (month.toList.take 4) ++ "01"

/-- The months in scope. Without a month it is the latest one of the table; a range needs a
calendar month to start from, and any other text is looked for as it is. -/
def Scope.predicate (scope : Scope) (maxMonth : Option String) (table : String) : Predicate :=
  match normalMonth maxMonth with
  | none => .latestMonth table
  | some month =>
    if scope = .yearToDate ∧ isCalendarMonth month then .monthBetween (januaryOf month) month
    else .equal Column.month month

/-- A value of a column that is left out of the answer. -/
structure Exclusion where
  column : String
  value : String
deriving DecidableEq, Repr

/-- The predicate of an exclusion. A column without a name, or the channel where there is none,
excludes nothing. -/
def Exclusion.predicate? (kpi : Kpi) (exclusion : Exclusion) : Option Predicate :=
  let column := Sql.identifier exclusion.column
  if column = "" ∨ (column = Column.channel ∧ kpi.hasChannel = false) then none
  else some (.different column exclusion.value)

theorem Exclusion.predicate?_eq_some {kpi : Kpi} {exclusion : Exclusion} {p : Predicate} :
    exclusion.predicate? kpi = some p ↔ Sql.identifier exclusion.column ≠ "" ∧
      (Sql.identifier exclusion.column = Column.channel → kpi.hasChannel = true) ∧
      p = .different (Sql.identifier exclusion.column) exclusion.value := by
  simp only [predicate?, Option.ite_none_left_eq_some, not_or, not_and, Bool.not_eq_false,
    Option.some.injEq, and_assoc, @eq_comm _ p]

/-- The columns that filters apply to, with their values. -/
def Filters.columns (kpi : Kpi) (filters : Filters) : List (String × List String) :=
  [(Column.megabrand, filters.megabrand), (Column.region, filters.region),
    (Column.state, filters.state), (kpi.geoColumn, filters.wholesalerId)] ++
    if kpi.hasChannel then [(Column.channel, filters.channel)] else []

/-- The predicates of a request for an indicator. -/
def predicates (kpi : Kpi) (table : String) (scope : Scope) (maxMonth : Option String)
    (filters : Filters) (exclusion : Option Exclusion) : List Predicate :=
  [.always, scope.predicate maxMonth table] ++
    (filters.columns kpi).filterMap (fun pair => Predicate.among? pair.1 pair.2) ++
    (exclusion.bind (·.predicate? kpi)).toList

/-- Where the predicates of a request come from. -/
theorem mem_predicates {kpi : Kpi} {table : String} {scope : Scope} {maxMonth : Option String}
    {filters : Filters} {exclusion : Option Exclusion} {p : Predicate} :
    p ∈ predicates kpi table scope maxMonth filters exclusion ↔
      p = .always ∨ p = scope.predicate maxMonth table ∨
      (∃ pair ∈ filters.columns kpi, pair.2 ≠ [] ∧ p = .oneOf pair.1 pair.2) ∨
      ∃ found, exclusion = some found ∧ Sql.identifier found.column ≠ "" ∧
        (Sql.identifier found.column = Column.channel → kpi.hasChannel = true) ∧
        p = .different (Sql.identifier found.column) found.value := by
  simp only [predicates, List.mem_append, List.mem_cons, List.not_mem_nil, or_false,
    List.mem_filterMap, Option.mem_toList, Option.bind_eq_some_iff, Predicate.among?_eq_some,
    Exclusion.predicate?_eq_some, or_assoc]

/-! ### Statements -/

/-- Where tables are found. -/
structure Namespace where
  catalog : String
  schema : String
deriving DecidableEq, Repr

/-- The full name of a table. -/
def Namespace.table (space : Namespace) (table : String) : String :=
  Sql.tableName space.catalog space.schema table

/-- At least one row is asked for. -/
def rowCap (limit : Int) : Int := max 1 limit

/-- The query for a known indicator. -/
def Kpi.statement (kpi : Kpi) (request : KpiRequest) (space : Namespace) (rowLimit : Int)
    (exclusion : Option Exclusion) : Statement :=
  let table := space.table kpi.table
  let group := request.groupBy.clauses kpi
  let total (column shown : String) := kpi.aggregation.name ++ "(" ++ column ++ ") AS " ++ shown
  { select := "SELECT " ++ ", ".intercalate
      [group.expression ++ " AS " ++ dimensionAlias, total kpi.currentColumn currentAlias,
        total kpi.priorColumn priorAlias]
    source := "FROM " ++ table
    condition := "WHERE " ++ Predicate.conjunction
      (predicates kpi table request.scope request.maxMonth request.filters exclusion)
    grouping := group.grouping
    order := group.order
    rowLimit := rowCap rowLimit
    dimensionLabel := group.label }

/-- The query of a request for an indicator. -/
def KpiRequest.statement (request : KpiRequest) (space : Namespace) (rowLimit : Int)
    (exclusion : Option Exclusion) : Except Failure Statement := do
  let kpi ← resolveKpi request.kpi
  return kpi.statement request space rowLimit exclusion

/-- The query of a request for options. -/
def OptionsRequest.statement (request : OptionsRequest) (space : Namespace) (rowLimit : Int) :
    Except Failure Statement := do
  let (dimension, table) ← resolveSource request.dimension request.table
  return {
    select := "SELECT DISTINCT " ++ dimension ++ " AS " ++ optionAlias
    source := "FROM " ++ space.table table
    condition := "WHERE " ++ Predicate.conjunction [.always, .present dimension]
    grouping := ""
    order := "ORDER BY " ++ optionAlias ++ " ASC"
    rowLimit := rowCap rowLimit
    dimensionLabel := dimension }

end Indicator
