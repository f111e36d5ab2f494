import Mathlib.Algebra.Order.Ring.Rat
import Indicator.Engine
import Indicator.Proofs.Outcome

/-!
# Exact times

Times in seconds as rationals, of which no sum or difference is rounded. Their short text has the
digits that it has for doubles (`significant_eq`), so that what is said of exact runs is said in the
same words.
-/

namespace Indicator

namespace Number

/-- The decimal of `count` digits nearest to `num / den`; a half goes to the even neighbour. -/
def significantRatio (count num den : Nat) : Decimal :=
  let scale := leadingPower num den - (count - 1)
  let (n, d) := inUnits num den scale
  let below := n / d
  let up := 2 * (n % d) > d || (2 * (n % d) = d && below % 2 = 1)
  dropZeros (count + 1) (if up then below + 1 else below) scale

/-- The digits of a double are those of the ratio that it stands for. -/
theorem significant_eq {count m : Nat} {q : Int} (h : m ≠ 0) :
    significant count m q = significantRatio count (ratioOf m q).1 (ratioOf m q).2 := by
  rw [significant, if_neg h]
  rfl

/-- A ratio in at most six significant digits. -/
def briefRatio (x : Rat) : String :=
  (if x < 0 then "-" else "") ++
    Layout.brief.write (if x = 0 then ⟨0, 0⟩ else significantRatio 6 x.num.natAbs x.den)

example : briefRatio (7 / 20) = "0.35" := by decide +kernel

end Number

instance : Timeline Rat where
  brief := Number.briefRatio
  millis seconds := .ok ((seconds * 1000).num.tdiv (seconds * 1000).den)

namespace Warehouse

open Json (Document)

/-! ### A client with exact times -/

/-- A client as it is usually configured. -/
def exactClient : Client Rat :=
  { host := "adb-1.net"
    token := "dapi-test"
    warehouseId := .str "wh-1"
    waitTimeout := .str "0s"
    showsStatement := true
    httpTimeout := 5 }

/-- A statement that may take ten seconds, with half a second between two questions. -/
def exactJob : Job Rat :=
  { statement := "SELECT 1"
    interval := .ok (1 / 2)
    deadline := 10
    correlation := none }

/-- The connection of this client. -/
def exactConnection : Connection :=
  ⟨⟨"https", "", "adb-1.net", none, "", none, none⟩, "Bearer dapi-test"⟩

theorem exactClient_connect : exactClient.connect = .ok exactConnection :=
  toOption_eq_some.mp (by decide +kernel)

/-- The address to which this client submits a statement. -/
def exactAddress : Web.Url := { exactConnection.base with path := "/api/2.0/sql/statements" }

theorem exactConnection_address : Session.address exactConnection
    (.submit (exactClient.order exactJob.statement)) = .ok exactAddress :=
  toOption_eq_some.mp (by decide +kernel)

/-- An answer of the warehouse about a statement in a state, which comes after a while. -/
def exactReply (latency : Rat) (state : State) : Scheduled Rat :=
  ⟨some latency, .response ⟨200, none, .ofDocument (.object
    [("statement_id", .str "stmt-1"), ("status", .object [("state", .str state.name)])])⟩⟩

/-- Settings under which this client is the one that is configured. -/
def exactSettings : Settings Rat :=
  { apiHost := "0.0.0.0"
    apiPort := 8010
    environment := .development
    apiVersion := "2026-01-15_kpi_v1"
    host := "adb-1.net"
    token := "dapi-test"
    warehouseId := "wh-1"
    catalog := "commercial_dev"
    schema := "capabilities"
    waitTimeout := "0s"
    kpiInterval := 7 / 20
    kpiDeadline := 12
    optionsInterval := 1
    optionsDeadline := 45
    httpTimeout := 5
    requestTimeout := 55
    kpiRowLimit := 500
    optionsRowLimit := 2000
    excludesCategory := false
    excludedColumn := "megabrand"
    excludedValue := "NON-BEER"
    allowedOrigins := []
    logsStatements := false }

example : exactSettings.client = exactClient := rfl

/-- A warehouse that never comes to an end with a statement. -/
def pendingSession : Session Rat :=
  { now := 0
    script := ⟨[exactReply (1 / 10) .pending, exactReply (1 / 4) .running], none⟩
    exchanges := []
    log := [] }

/-- A warehouse that is not reached. -/
def brokenSession : Session Rat :=
  { now := 0
    script := ⟨[⟨none, .broken "ConnectError" ""⟩], none⟩
    exchanges := []
    log := [] }

/-- An answer of the warehouse at once. -/
def exactDocument (document : Document) : Scheduled Rat :=
  ⟨none, .response ⟨200, none, .ofDocument document⟩⟩

/-- The news that a statement has succeeded, with the first page of its result. -/
def exactResult (result : Json.Members) : Scheduled Rat :=
  exactDocument (.object
    [("statement_id", .str "stmt-1"), ("status", .object [("state", .str State.succeeded.name)]),
      ("result", .object result)])

/-- A warehouse that gives these answers. -/
def exactSession (replies : List (Scheduled Rat)) : Session Rat :=
  { now := 0
    script := ⟨replies, none⟩
    exchanges := []
    log := [] }

end Warehouse

end Indicator
