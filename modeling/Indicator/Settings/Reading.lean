import Indicator.Settings.Basic
import Indicator.Settings.Coercion

/-!
# Reading settings

Settings come from variables of the environment, whose names may be in any letter case, and from
values given directly, which win. What is not set keeps its standard value. Names that belong to
no setting are passed over. The rule on timeouts is looked at once every setting is well formed.
-/

namespace Indicator

open Json (Document Members)

/-- Why there are no settings. -/
inductive SettingsRefusal
  /-- The text of the list of origins is no JSON. -/
  | unreadableOrigins
  /-- The list of origins is nested too deep. -/
  | deepOrigins (what : Json.Container)
  | invalid (faults : List FieldFault)

namespace Settings

def originsName : String := "cors_allowed_origins"

/-- A setting that is not given keeps its value. -/
def readField {α : Type} (given : Members) (name : String) (current : α)
    (check : Document → Checked α) : Checked α :=
  match given.get? name with
  | none => .ok current
  | some value => Checked.under name (check value)

def readEnvironment : Document → Checked Environment
  | .str name =>
    match Environment.ofName? name with
    | some environment => .ok environment
    | none => Checked.refuse (.notOneOf (Environment.all.map Environment.name))
  | _ => Checked.refuse (.notOneOf (Environment.all.map Environment.name))

/-- The settings with those that are given in place of those of `s`. -/
def override (s : Settings Float) (given : Members) : Checked (Settings Float) :=
  let text (name : String) (current : String) := readField given name current readText
  let number (name : String) (current : Float) := readField given name current readNumber
  let integer (name : String) (current : Int) := readField given name current readInteger
  let truth (name : String) (current : Bool) := readField given name current readTruth
  (text "api_host" s.apiHost).map Settings.mk
    |> Checked.along (integer "api_port" s.apiPort)
    |> Checked.along (readField given "environment" s.environment readEnvironment)
    |> Checked.along (text "api_version" s.apiVersion)
    |> Checked.along (text "databricks_host" s.host)
    |> Checked.along (text "databricks_token" s.token)
    |> Checked.along (text "warehouse_id" s.warehouseId)
    |> Checked.along (text "warehouse_catalog" s.catalog)
    |> Checked.along (text "warehouse_schema" s.schema)
    |> Checked.along (text "statement_wait_timeout" s.waitTimeout)
    |> Checked.along (number "kpi_poll_interval_seconds" s.kpiInterval)
    |> Checked.along (number "kpi_deadline_seconds" s.kpiDeadline)
    |> Checked.along (number "options_poll_interval_seconds" s.optionsInterval)
    |> Checked.along (number "options_deadline_seconds" s.optionsDeadline)
    |> Checked.along (number "statement_http_timeout_seconds" s.httpTimeout)
    |> Checked.along (number "request_timeout_seconds" s.requestTimeout)
    |> Checked.along (integer "kpi_row_limit" s.kpiRowLimit)
    |> Checked.along (integer "options_row_limit" s.optionsRowLimit)
    |> Checked.along (truth "kpi_exclude_default_category" s.excludesCategory)
    |> Checked.along (text "kpi_excluded_category_column" s.excludedColumn)
    |> Checked.along (text "kpi_excluded_category_value" s.excludedValue)
    |> Checked.along (readField given originsName s.allowedOrigins readTexts)
    |> Checked.along (truth "log_statements" s.logsStatements)

/-- The variables of the environment under names in lower case; of two that become one, the last
counts. The list of origins is a JSON text, of which `null` sets nothing. -/
def ofVariables : List (String × String) → Except SettingsRefusal Members
  | [] => .ok []
  | (name, value) :: rest => do
    let more ← ofVariables rest
    let name := Text.lower name
    if (more.get? name).isSome then return more
    else if name = originsName then
      match Document.read value.toList with
      | .error (.tooDeep what) => .error (.deepOrigins what)
      | .error _ => .error .unreadableOrigins
      | .ok .null => return more
      | .ok origins => return (name, origins) :: more
    else return (name, .str value) :: more

/-- The settings that variables of the environment and values given directly make. -/
def load (environment : List (String × String)) (given : Members) :
    Except SettingsRefusal (Settings Float) := do
  let fromVariables ← ofVariables environment
  let settings ← (standard.override (given ++ fromVariables)).mapError .invalid
  if settings.fitsRequestTimeout then return settings
  else .error (.invalid [⟨[], .shortRequestTimeout⟩])

end Settings

end Indicator
