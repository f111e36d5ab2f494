import Mathlib.Algebra.Order.Group.Defs
import Indicator.Proofs.Engine
import Indicator.Proofs.Request.Whole
import Indicator.Proofs.Warehouse.Deadline
import Indicator.Proofs.Warehouse.Submission
import Indicator.Web.Service

/-!
# What a request demands

Settings and a posted document decide what is demanded before anything is sent: a sign of life,
nothing that is allowed, or one statement.

* `Settings.demand`: what a posted document demands under settings.
* `KpiRequest.exists_statement_iff`, `OptionsRequest.exists_statement_iff`: the requests that have a
  statement are those the catalog allows.
* `Settings.Timely`: the times of settings let a request begin. `Settings.timely_of_exact`: positive
  times do, where none is rounded.
-/

namespace Indicator

open Json (Document Members)
open Text (isWhole)
open Warehouse (Client normalHost)

/-! ### Demands -/

/-- What a document demands: a sign of life, nothing that is allowed, or a statement. -/
inductive Demand
  | ping (received : Members)
  | refused
  | statement (statement : Sql.Statement)

def Demand.ofStatement : Except Failure Sql.Statement → Demand
  | .ok compiled => .statement compiled
  | .error _ => .refused

/-- What a document can ask for. -/
inductive Topic
  | kpi
  | options

namespace Topic

def path : Topic → String
  | kpi => "/api/query"
  | options => "/api/filters"

def endpoint : Topic → Web.Endpoint
  | kpi => .query
  | options => .filters

end Topic

/-- **A request for an indicator has a statement exactly if the indicator is in the catalog.** -/
theorem KpiRequest.exists_statement_iff {request : KpiRequest} {space : Namespace} {rowLimit : Int}
    {exclusion : Option Exclusion} :
    (∃ statement, request.statement space rowLimit exclusion = .ok statement) ↔
      request.kpi ∈ kpiNames := by
  have hfind : (∃ kpi, Kpi.find? request.kpi = some kpi) ↔ request.kpi ∈ kpiNames := by
    rw [← Option.isSome_iff_exists, Kpi.find?, List.find?_isSome, kpiNames, List.mem_map]
    simp
  rw [← hfind]
  unfold statement resolveKpi
  cases Kpi.find? request.kpi with
  | none => simp [bind, Except.bind]
  | some kpi => simp [bind, Except.bind, pure, Except.pure]

/-- **A request for options has a statement exactly if its dimension may be listed from its
table.** -/
theorem OptionsRequest.exists_statement_iff {request : OptionsRequest} {space : Namespace}
    {rowLimit : Int} :
    (∃ statement, request.statement space rowLimit = .ok statement) ↔
      request.dimension ∈ optionDimensions ∧ request.table ∈ optionTables := by
  have hlisted : isListed request.dimension request.table = true ↔
      request.dimension ∈ optionDimensions ∧ request.table ∈ optionTables := by
    simp [isListed]
  rw [← hlisted]
  unfold statement resolveSource
  split
  · rename_i h
    simp [h, bind, Except.bind, pure, Except.pure]
  · rename_i h
    simp [h, bind, Except.bind]

/-- What a whole request is refused for is told in whole texts. -/
theorem KpiRequest.Whole.refusal {request : KpiRequest} (h : request.Whole) {space : Namespace}
    {rowLimit : Int} {exclusion : Option Exclusion} {failure : Failure}
    (hfailure : request.statement space rowLimit exclusion = .error failure) :
    failure.Whole ∧ failure.kind = .invalidRequest := by
  rw [KpiRequest.statement_eq_error hfailure]
  exact ⟨Failure.whole_unknownKpi h.kpi, rfl⟩

theorem OptionsRequest.Whole.refusal {request : OptionsRequest} (h : request.Whole)
    {space : Namespace} {rowLimit : Int} {failure : Failure}
    (hfailure : request.statement space rowLimit = .error failure) :
    failure.Whole ∧ failure.kind = .invalidRequest := by
  rw [OptionsRequest.statement_eq_error hfailure]
  exact ⟨Failure.whole_unlistedSource h.dimension h.table, rfl⟩

namespace Settings

section

variable {τ : Type} (settings : Settings τ)

/-- The category that is left out of the answers, if one is. -/
def excluded : Option Exclusion :=
  if settings.excludesCategory then some ⟨settings.excludedColumn, settings.excludedValue⟩ else none

/-- What a payload demands of the catalog. -/
def demandOf (payload : Members) : Topic → Demand
  | .kpi =>
    match payload.get? "ping" with
    | some (.bool true) => .ping payload
    | _ =>
      match KpiRequest.ofDocument (.object payload) with
      | .error _ => .refused
      | .ok request =>
        .ofStatement (request.statement settings.space settings.kpiRowLimit settings.excluded)
  | .options =>
    match OptionsRequest.ofDocument (.object payload) with
    | .error _ => .refused
    | .ok request => .ofStatement (request.statement settings.space settings.optionsRowLimit)

theorem demandOf_ping {payload : Members} (h : payload.get? "ping" = some (.bool true)) :
    settings.demandOf payload .kpi = .ping payload := by
  dsimp only [demandOf]
  rw [h]

theorem demandOf_kpi {payload : Members} (h : payload.get? "ping" = some (.bool true) → False) :
    settings.demandOf payload .kpi =
      match KpiRequest.ofDocument (.object payload) with
      | .error _ => .refused
      | .ok request =>
        .ofStatement (request.statement settings.space settings.kpiRowLimit settings.excluded) := by
  dsimp only [demandOf]
  cases hping : payload.get? "ping" with
  | none => rfl
  | some value =>
    cases value with
    | bool flag =>
      cases flag with
      | true => exact (h hping).elim
      | false => rfl
    | _ => rfl

/-- **What a posted document demands.** No document is an empty payload, and what is no object
demands nothing that is allowed. -/
def demand (topic : Topic) (document : Document) : Demand :=
  match Web.payloadOf document with
  | .error _ => .refused
  | .ok payload => settings.demandOf (payload.getD []) topic

/-- A part is missing of what the warehouse is reached with. -/
def Unconfigured : Prop :=
  normalHost settings.host = "" ∨ settings.token = "" ∨ settings.warehouseId = ""

instance : Decidable settings.Unconfigured :=
  inferInstanceAs (Decidable (normalHost settings.host = "" ∨ settings.token = "" ∨
    settings.warehouseId = ""))

/-- Settings whose version can be told in a header, and whose other texts can be written. -/
structure Plain : Prop where
  version : ∀ c ∈ settings.apiVersion.toList, c.toNat < 0x100
  warehouseId : isWhole settings.warehouseId = true
  waitTimeout : isWhole settings.waitTimeout = true
  excludedValue : isWhole settings.excludedValue = true

theorem Plain.whole_excluded {settings : Settings τ} (h : settings.Plain) :
    ∀ found ∈ settings.excluded, found.Whole := by
  intro found hfound
  unfold excluded at hfound
  split at hfound
  · cases hfound
    exact h.excludedValue
  · cases hfound

theorem Plain.withHost {settings : Settings τ} (h : settings.Plain) (host : String) :
    Plain { settings with host := host } :=
  ⟨h.version, h.warehouseId, h.waitTimeout, h.excludedValue⟩

/-- The warehouse is configured exactly if no part is missing. -/
theorem checkConfigured_eq_ok :
    settings.client.checkConfigured = .ok () ↔ ¬ settings.Unconfigured := by
  have hwarehouse : settings.client.warehouseId.truthy = true ↔ settings.warehouseId ≠ "" :=
    decide_eq_true_iff
  rw [Client.checkConfigured_eq_ok, hwarehouse, Unconfigured, not_or, not_or]
  exact Iff.rfl

end

section

variable {τ : Type} [Zero τ] [Add τ] [Sub τ] [LT τ] [LE τ] [DecidableLT τ]
  [Timeline τ]

/-- **The times of settings let a request begin at an instant**: the request is not late at once,
its duration can be told, and there is time for a first request to the warehouse. -/
structure Timely (settings : Settings τ) (now : τ) : Prop where
  begins : ¬ settings.requestTimeout ≤ 0
  passes : ¬ settings.requestTimeout ≤ now - now
  measured : ∃ elapsed, millisBetween now now = .ok elapsed
  kpi : ¬ (settings.client.limitAt (some (now + settings.kpiDeadline)) now).1 ≤ 0
  options : ¬ (settings.client.limitAt (some (now + settings.optionsDeadline)) now).1 ≤ 0

theorem Timely.withHost {settings : Settings τ} {now : τ} (h : settings.Timely now)
    (host : String) : Timely { settings with host := host } now :=
  ⟨h.begins, h.passes, h.measured, h.kpi, h.options⟩

end

/-- **Positive times let a request begin**, where none is rounded. -/
theorem timely_of_exact {τ : Type} [AddCommGroup τ] [LinearOrder τ] [IsOrderedAddMonoid τ]
    [Timeline τ] {settings : Settings τ} (hfits : settings.fitsRequestTimeout = true)
    (hkpi : 0 < settings.kpiDeadline) (hoptions : 0 < settings.optionsDeadline)
    (hlimit : 0 < settings.httpTimeout) {elapsed : Int}
    (helapsed : Timeline.millis (0 : τ) = .ok elapsed) (now : τ) : settings.Timely now := by
  have hbegins : 0 < settings.requestTimeout := by
    have hlongest : settings.longest < settings.requestTimeout := by
      simpa [fitsRequestTimeout] using hfits
    rw [longest, Warehouse.later_eq_max] at hlongest
    exact (add_pos (hkpi.trans_le (le_max_left _ _)) hlimit).trans hlongest
  have hleft {deadline : τ} (hdeadline : 0 < deadline) :
      ¬ (settings.client.limitAt (some (now + deadline)) now).1 ≤ 0 := by
    unfold Client.limitAt
    dsimp only
    rw [Warehouse.later_eq_max, add_sub_cancel_left, max_eq_right hdeadline.le]
    split
    · exact not_le.mpr hdeadline
    · exact not_le.mpr hlimit
  refine ⟨not_le.mpr hbegins, ?_, ⟨max 0 elapsed, ?_⟩, hleft hkpi, hleft hoptions⟩
  · rw [sub_self]
    exact not_le.mpr hbegins
  · rw [millisBetween, sub_self, helapsed]
    rfl

end Settings

end Indicator
