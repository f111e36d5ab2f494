import Indicator.Compile
import Indicator.Warehouse.Time

/-!
# Settings

What can be set for the whole engine. `fitsRequestTimeout` is the rule that ties the timeouts
together: a request outlasts the longest statement together with one request to cancel it.
-/

namespace Indicator

open Json (Document)

/-- Where the engine runs. -/
inductive Environment
  | development
  | test
  | staging
  | production
deriving DecidableEq, Repr

namespace Environment

def all : List Environment := [development, test, staging, production]

def name : Environment → String
  | development => "development"
  | test => "test"
  | staging => "staging"
  | production => "production"

def ofName? (name : String) : Option Environment := all.find? (·.name = name)

end Environment

/-- The settings, with durations of type `τ` in seconds. -/
structure Settings (τ : Type) where
  apiHost : String
  apiPort : Int
  environment : Environment
  apiVersion : String
  host : String
  token : String
  warehouseId : String
  catalog : String
  schema : String
  waitTimeout : String
  kpiInterval : τ
  kpiDeadline : τ
  optionsInterval : τ
  optionsDeadline : τ
  httpTimeout : τ
  requestTimeout : τ
  kpiRowLimit : Int
  optionsRowLimit : Int
  excludesCategory : Bool
  excludedColumn : String
  excludedValue : String
  allowedOrigins : List String
  logsStatements : Bool

namespace Settings

section

variable {τ : Type}

/-- The time that the longest statement may take, with one request to cancel it. -/
def longest [LT τ] [DecidableLT τ] [Add τ] (s : Settings τ) : τ :=
  later s.kpiDeadline s.optionsDeadline + s.httpTimeout

/-- Whether a request is given more time than the longest statement. -/
def fitsRequestTimeout [LT τ] [DecidableLT τ] [Add τ] [LE τ] [DecidableLE τ] (s : Settings τ) :
    Bool :=
  !decide (s.requestTimeout ≤ s.longest)

/-- Where tables are found. -/
def space (s : Settings τ) : Namespace := ⟨s.catalog, s.schema⟩

def isProduction (s : Settings τ) : Bool := s.environment = .production

end

/-- The settings of an engine for which nothing is set. -/
def standard : Settings Float where
  apiHost := "0.0.0.0"
  apiPort := 8010
  environment := .development
  apiVersion := "2026-01-15_kpi_v1"
  host := ""
  token := ""
  warehouseId := ""
  catalog := "commercial_dev"
  schema := "capabilities"
  waitTimeout := "0s"
  kpiInterval := 0.35
  kpiDeadline := 12.0
  optionsInterval := 1.0
  optionsDeadline := 45.0
  httpTimeout := 5.0
  requestTimeout := 55.0
  kpiRowLimit := 500
  optionsRowLimit := 2000
  excludesCategory := false
  excludedColumn := "megabrand"
  excludedValue := "NON-BEER"
  allowedOrigins := ["https://brickhouser3.github.io", "http://localhost:3000",
    "http://localhost:3001", "http://127.0.0.1:3000"]
  logsStatements := false

/-- The settings under their names. -/
def toDocument (s : Settings Float) : Document :=
  .object [("api_host", .str s.apiHost), ("api_port", .int s.apiPort),
    ("environment", .str s.environment.name), ("api_version", .str s.apiVersion),
    ("databricks_host", .str s.host), ("databricks_token", .str s.token),
    ("warehouse_id", .str s.warehouseId), ("warehouse_catalog", .str s.catalog),
    ("warehouse_schema", .str s.schema), ("statement_wait_timeout", .str s.waitTimeout),
    ("kpi_poll_interval_seconds", .float s.kpiInterval),
    ("kpi_deadline_seconds", .float s.kpiDeadline),
    ("options_poll_interval_seconds", .float s.optionsInterval),
    ("options_deadline_seconds", .float s.optionsDeadline),
    ("statement_http_timeout_seconds", .float s.httpTimeout),
    ("request_timeout_seconds", .float s.requestTimeout),
    ("kpi_row_limit", .int s.kpiRowLimit), ("options_row_limit", .int s.optionsRowLimit),
    ("kpi_exclude_default_category", .bool s.excludesCategory),
    ("kpi_excluded_category_column", .str s.excludedColumn),
    ("kpi_excluded_category_value", .str s.excludedValue),
    ("cors_allowed_origins", .list (s.allowedOrigins.map .str)),
    ("log_statements", .bool s.logsStatements)]

end Settings

end Indicator
