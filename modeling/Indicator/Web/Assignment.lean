import Indicator.Json.Amount
import Indicator.Web.Service

/-!
# Settings set afterwards

A setting of a service can be set by its name to any document, which nothing checks. Where it is
used the document counts for what it is: as true or false, as a text, as a number if it can be one.
-/

namespace Indicator.Web

open Json (Document Members)

/-- A document as a row limit. -/
def rowLimitOf (value : Document) : Except Fault Int := value.toInteger.mapError .badAmount

/-- A document as the time between two polls. -/
def intervalOf (value : Document) : Except Fault Float := value.toBound.mapError .badAmount

/-- A document as the time that a statement may take. -/
def deadlineOf (value : Document) : Except Fault Float := value.toDuration.mapError .badAmount

/-- A document as the time that a request may take; `null` does not limit it. -/
def RequestLimit.ofDocument : Document → RequestLimit Float
  | .null => .unlimited
  | value =>
    match value.toBound with
    | .ok limit => .seconds limit
    | .error _ => .unusable

/-- A document as the origins that may use the service. Of a list the texts count, of an object its
keys. -/
def Cors.Origins.ofDocument : Document → Cors.Origins
  | .str text => .within text
  | .list items => .listed (items.filterMap fun
    | .str origin => some origin
    | _ => none)
  | .object members => .listed (members.map Prod.fst)
  | _ => .listed []

/-- A document as a credential. -/
def tokenOf (value : Document) : String := if value.truthy then value.text else ""

/-- Whether a document names the environment in which nothing is told of faults. -/
def namesProduction : Document → Bool
  | .str name => name = Environment.production.name
  | _ => false

namespace Service

/-- Sets what the client of the engine is told. -/
def withClient (service : Service Float) (change : Warehouse.Client Float → Warehouse.Client Float) :
    Service Float :=
  { service with engine := { service.engine with client := change service.engine.client } }

/-- Sets the time limit of the client. -/
def withHttpTimeout (service : Service Float) (value : Document) : Service Float :=
  match value.toBound with
  | .error what =>
    { service with engine := { service.engine with limitFault := some (.badAmount what) } }
  | .ok limit =>
    { service with
      engine := { service.engine with
        client := { service.engine.client with httpTimeout := limit }
        limitFault := none } }

/-- Sets the terms for indicators. -/
def withKpiTerms (service : Service Float) (change : Terms Float → Terms Float) : Service Float :=
  { service with engine := { service.engine with kpiTerms := change service.engine.kpiTerms } }

/-- Sets the terms for options. -/
def withOptionsTerms (service : Service Float) (change : Terms Float → Terms Float) :
    Service Float :=
  { service with
    engine := { service.engine with optionsTerms := change service.engine.optionsTerms } }

/-- Sets where tables are found. -/
def withSpace (service : Service Float) (change : Namespace → Namespace) : Service Float :=
  { service with engine := { service.engine with space := change service.engine.space } }

/-- Sets the category that may be left out. -/
def withExclusion (service : Service Float) (change : Exclusion → Exclusion) : Service Float :=
  { service with engine := { service.engine with exclusion := change service.engine.exclusion } }

/-- Sets one setting. A name that belongs to none changes nothing. -/
def assign (service : Service Float) (name : String) (value : Document) : Service Float :=
  match name with
  | "environment" =>
    { service.withClient ({ · with showsStatement := !namesProduction value }) with
      isProduction := namesProduction value }
  | "api_version" => { service with version := value }
  | "databricks_host" => service.withClient ({ · with host := value.text })
  | "databricks_token" => service.withClient ({ · with token := tokenOf value })
  | "warehouse_id" => service.withClient ({ · with warehouseId := value })
  | "statement_wait_timeout" => service.withClient ({ · with waitTimeout := value })
  | "statement_http_timeout_seconds" => service.withHttpTimeout value
  | "warehouse_catalog" => service.withSpace ({ · with catalog := value.spliceText })
  | "warehouse_schema" => service.withSpace ({ · with schema := value.spliceText })
  | "kpi_row_limit" => service.withKpiTerms ({ · with rowLimit := rowLimitOf value })
  | "kpi_poll_interval_seconds" => service.withKpiTerms ({ · with interval := intervalOf value })
  | "kpi_deadline_seconds" => service.withKpiTerms ({ · with deadline := deadlineOf value })
  | "options_row_limit" => service.withOptionsTerms ({ · with rowLimit := rowLimitOf value })
  | "options_poll_interval_seconds" =>
    service.withOptionsTerms ({ · with interval := intervalOf value })
  | "options_deadline_seconds" => service.withOptionsTerms ({ · with deadline := deadlineOf value })
  | "kpi_exclude_default_category" =>
    { service with engine := { service.engine with excludes := value.truthy } }
  | "kpi_excluded_category_column" => service.withExclusion ({ · with column := value.spliceText })
  | "kpi_excluded_category_value" => service.withExclusion ({ · with value := value.spliceText })
  | "log_statements" =>
    { service with engine := { service.engine with logsStatements := value.truthy } }
  | "request_timeout_seconds" => { service with requestLimit := .ofDocument value }
  | "cors_allowed_origins" => { service with origins := .ofDocument value }
  | _ => service

/-- Sets settings by their names, one after the other. -/
def assignAll (service : Service Float) (given : Members) : Service Float :=
  given.foldl (fun service setting => service.assign setting.1 setting.2) service

end Service

end Indicator.Web
