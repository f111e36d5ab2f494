import Indicator.Json.Document

/-!
# Requests

What a caller can ask for: an indicator grouped by a dimension over a span of months, with
filters, or the values of one dimension. Both are written as documents with member names in
camel case.
-/

namespace Indicator

open Json (Document)

/-- What the rows of an answer stand for. -/
inductive Grouping
  | time
  | megabrand
  | region
  | state
  | wholesaler
  | channel
deriving DecidableEq, Repr

namespace Grouping

def all : List Grouping := [time, megabrand, region, state, wholesaler, channel]

def name : Grouping → String
  | time => "time"
  | megabrand => "megabrand"
  | region => "region"
  | state => "state"
  | wholesaler => "wholesaler"
  | channel => "channel"

/-- The grouping of a name, spelled exactly. -/
def ofName? (name : String) : Option Grouping := all.find? (·.name = name)

end Grouping

/-- The months that an answer covers: one, or the year up to it. -/
inductive Scope
  | monthToDate
  | yearToDate
deriving DecidableEq, Repr

namespace Scope

def all : List Scope := [monthToDate, yearToDate]

def name : Scope → String
  | monthToDate => "MTD"
  | yearToDate => "YTD"

/-- The scope of a name, spelled exactly. -/
def ofName? (name : String) : Option Scope := all.find? (·.name = name)

end Scope

/-- The values that each dimension is restricted to; an empty list does not restrict it. -/
structure Filters where
  megabrand : List String
  region : List String
  state : List String
  wholesalerId : List String
  channel : List String
deriving DecidableEq, Repr

def Filters.none : Filters := ⟨[], [], [], [], []⟩

/-- The version of the contract that a caller may name. -/
def contractVersion : String := "kpi_request.v1"

structure KpiRequest where
  /-- Whether the caller named the version of the contract. -/
  versioned : Bool
  kpi : String
  groupBy : Grouping
  scope : Scope
  maxMonth : Option String
  filters : Filters
deriving DecidableEq, Repr

structure OptionsRequest where
  dimension : String
  table : String
deriving DecidableEq, Repr

/-! ### As documents -/

def Filters.toDocument (filters : Filters) : Document :=
  let values (list : List String) := Document.list (list.map .str)
  .object [("megabrand", values filters.megabrand), ("region", values filters.region),
    ("state", values filters.state), ("wholesalerId", values filters.wholesalerId),
    ("channel", values filters.channel)]

def KpiRequest.toDocument (request : KpiRequest) : Document :=
  .object [("contractVersion", if request.versioned then .str contractVersion else .null),
    ("kpi", .str request.kpi), ("groupBy", .str request.groupBy.name),
    ("scope", .str request.scope.name), ("maxMonth", .ofText? request.maxMonth),
    ("filters", request.filters.toDocument)]

def OptionsRequest.toDocument (request : OptionsRequest) : Document :=
  .object [("dimension", .str request.dimension), ("table", .str request.table)]

end Indicator
