/-!
# The catalog of indicators

What can be asked for: the indicators with the tables and columns they are measured in, and the
dimensions and tables whose values may be listed. Table and column names are written into
statements, so nothing outside of this catalog is ever queried by name.
-/

namespace Indicator

/-! ### Columns -/

namespace Column

def month : String := "cal_yr_mo_nbr"
def megabrand : String := "megabrand"
def region : String := "sls_regn_cd"
def state : String := "mktng_st_cd"
def channel : String := "channel"
def wholesaler : String := "wslr_nbr"
def keyAccountManager : String := "kam_nbr"

end Column

/-! ### Indicators -/

/-- How the values of a group are put together. -/
inductive Aggregation
  | sum
  | avg
deriving DecidableEq, Repr

def Aggregation.name : Aggregation → String
  | sum => "SUM"
  | avg => "AVG"

/-- An indicator and where it is measured. -/
structure Kpi where
  name : String
  table : String
  measure : String
  aggregation : Aggregation
  hasChannel : Bool
  geoColumn : String
deriving DecidableEq, Repr

/-- The column of the current year. -/
def Kpi.currentColumn (kpi : Kpi) : String := kpi.measure ++ "_CY"

/-- The column of the year before. -/
def Kpi.priorColumn (kpi : Kpi) : String := kpi.measure ++ "_LY"

/-- The indicators that can be asked for, sorted by name. -/
def kpis : List Kpi :=
  [⟨"displays", "mbmc_actuals_displays", "displays", .sum, false, Column.keyAccountManager⟩,
   ⟨"distro", "mbmc_actuals_distro", "distro_pts", .sum, false, Column.wholesaler⟩,
   ⟨"revenue", "mbmc_actuals_revenue", "net_revenue", .sum, true, Column.wholesaler⟩,
   ⟨"share", "mbmc_actuals_share", "share_pct", .avg, true, Column.wholesaler⟩,
   ⟨"velocity", "mbmc_actuals_velocity", "velocity_rate", .avg, false, Column.wholesaler⟩,
   ⟨"volume", "mbmc_actuals_volume", "volume", .sum, true, Column.wholesaler⟩]

def kpiNames : List String := kpis.map Kpi.name

/-- The indicator of a name, spelled exactly. -/
def Kpi.find? (name : String) : Option Kpi := kpis.find? (·.name = name)

/-! ### Options -/

/-- The dimensions whose values may be listed. -/
def optionDimensions : List String :=
  [Column.wholesaler, Column.state, Column.region, Column.channel, Column.megabrand]

/-- The tables that a dimension may be listed from. -/
def optionTables : List String :=
  ["mbmc_actuals_volume", "mbmc_actuals_revenue", "mbmc_actuals_distro"]

/-- Whether the values of a dimension may be listed from a table. -/
def isListed (dimension table : String) : Bool :=
  optionDimensions.contains dimension && optionTables.contains table

end Indicator
