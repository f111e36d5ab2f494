import Indicator.Failure
import Indicator.Request.Basic
import Indicator.Text.Case

/-!
# Reading requests

Requests are read from documents. A member may be spelled in camel case or with underscores; the
first spelling wins, and a fault names the spelling that the caller used. Members with other names
are passed over. All faults of a request are reported, in the order of its members.
-/

namespace Indicator

open Json (Document Members)

/-! ### Members -/

/-- The two spellings of a member. -/
structure Key where
  camel : String
  snake : String
deriving DecidableEq, Repr

/-- Checks the value of a member, or takes `absent` if it is not there. -/
def Key.read {α : Type} (key : Key) (members : Members) (absent : Checked α)
    (check : Document → Checked α) : Checked α :=
  match members.get? key.camel, members.get? key.snake with
  | some value, _ => Checked.under key.camel (check value)
  | none, some value => Checked.under key.snake (check value)
  | none, none => Checked.under key.camel absent

namespace Key

def contractVersion : Key := ⟨"contractVersion", "contract_version"⟩
def kpi : Key := ⟨"kpi", "kpi"⟩
def groupBy : Key := ⟨"groupBy", "group_by"⟩
def scope : Key := ⟨"scope", "scope"⟩
def maxMonth : Key := ⟨"maxMonth", "max_month"⟩
def filters : Key := ⟨"filters", "filters"⟩
def megabrand : Key := ⟨"megabrand", "megabrand"⟩
def region : Key := ⟨"region", "region"⟩
def state : Key := ⟨"state", "state"⟩
def wholesalerId : Key := ⟨"wholesalerId", "wholesaler_id"⟩
def channel : Key := ⟨"channel", "channel"⟩
def dimension : Key := ⟨"dimension", "dimension"⟩
def table : Key := ⟨"table", "table"⟩

end Key

/-- The members of an object that stands for the record `name`. -/
def membersOf (name : String) : Document → Checked Members
  | .object members => .ok members
  | _ => Checked.refuse (.notRecord name)

/-! ### Values -/

def readString : Document → Checked String
  | .str value => .ok value
  | _ => Checked.refuse .notString

/-- What is wrong with a string that is none of a few names. -/
def nameComplaint (choices : List String) (value : String) : Complaint :=
  if Text.isWhole value then .notOneOf choices else .unreadableString

/-- One of a few names, of a string that is first brought to one case. -/
def readName {α : Type} (choices : List String) (fold : String → String)
    (ofName? : String → Option α) : Document → Checked α
  | .str value =>
    match ofName? (fold value) with
    | some found => .ok found
    | none => Checked.refuse (nameComplaint choices value)
  | _ => Checked.refuse (.notOneOf choices)

/-- Whether the version is named; no other version is accepted. -/
def readVersion : Document → Checked Bool
  | .null => .ok false
  | .str value =>
    if value = contractVersion then .ok true
    else Checked.refuse (nameComplaint [contractVersion] value)
  | _ => Checked.refuse (.notOneOf [contractVersion])

/-- The text of a month; `null` and the empty string name none. -/
def readMonth : Document → Checked (Option String)
  | .null => .ok none
  | .str "" => .ok none
  | value => .ok (some value.text)

/-- The values of a filter: a single value stands for itself, and `null` is passed over. -/
def readValues : Document → Checked (List String)
  | .null => .ok []
  | .list items => .ok ((items.filter fun item => !item.isNull).map Document.text)
  | .object _ => Checked.refuse .notList
  | value => .ok [value.text]

/-! ### Records -/

def Filters.ofMembers (members : Members) : Checked Filters :=
  let values (key : Key) := key.read members (.ok []) readValues
  (values .megabrand).map Filters.mk |> Checked.along (values .region)
    |> Checked.along (values .state) |> Checked.along (values .wholesalerId)
    |> Checked.along (values .channel)

def Filters.ofDocument (document : Document) : Checked Filters :=
  membersOf "KpiFilters" document >>= ofMembers

def KpiRequest.ofMembers (members : Members) : Checked KpiRequest :=
  let versioned := Key.contractVersion.read members (.ok false) readVersion
  let kpi := Key.kpi.read members (Checked.refuse .missing) readString
  let groupBy := Key.groupBy.read members (.ok .time)
    (readName (Grouping.all.map Grouping.name) Text.lower Grouping.ofName?)
  let scope := Key.scope.read members (.ok .yearToDate)
    (readName (Scope.all.map Scope.name) Text.upper Scope.ofName?)
  let maxMonth := Key.maxMonth.read members (.ok none) readMonth
  let filters := Key.filters.read members (.ok Filters.none) Filters.ofDocument
  versioned.map KpiRequest.mk |> Checked.along kpi |> Checked.along groupBy
    |> Checked.along scope |> Checked.along maxMonth |> Checked.along filters

def KpiRequest.ofDocument (document : Document) : Checked KpiRequest :=
  membersOf "KpiQueryRequest" document >>= ofMembers

def OptionsRequest.ofMembers (members : Members) : Checked OptionsRequest :=
  let part (key : Key) := key.read members (Checked.refuse .missing) readString
  (part .dimension).map OptionsRequest.mk |> Checked.along (part .table)

def OptionsRequest.ofDocument (document : Document) : Checked OptionsRequest :=
  membersOf "OptionsRequest" document >>= ofMembers

/-! ### Payloads -/

/-- A payload with an empty object in place of any value that counts as false. -/
def orEmpty (payload : Document) : Document :=
  if payload.truthy then payload else .object []

/-- A record read from a payload, its faults making one failure. -/
def fromPayload {α : Type} (read : Document → Checked α) (payload : Document) : Except Failure α :=
  (read (orEmpty payload)).mapError .malformedRequest

end Indicator
