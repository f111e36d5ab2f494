import Indicator.Failure

/-!
# Handles

What the warehouse tells about a statement: its identifier, its state and, once it has succeeded,
the result. The shape of the answer is checked as it is read; an answer of another shape is a
breach of the rules of the warehouse.
-/

namespace Indicator.Warehouse

open Json (Document Members)

structure Handle where
  statementId : String
  state : State
  result : Option Members
  manifest : Option Members
  errorMessage : Option String
  errorCode : Option String

namespace Handle

/-- How the statement ended. -/
def ending (handle : Handle) : Ending :=
  ⟨handle.statementId, handle.state, handle.errorMessage, handle.errorCode⟩

/-- The members of an object, where `null` stands for an empty one. -/
def objectOf (field id : String) : Document → Except Breach Members
  | .null => .ok []
  | .object members => .ok members
  | _ => .error (.fieldNotObject field id)

/-- The identifier in an answer, or the one that was asked for. -/
def idOf? (body : Members) (known : Option String) : Option String :=
  let given := Document.member body "statement_id"
  if given.truthy then some given.text
  else match known with
    | none | some "" => none
    | some id => some id

/-- The state that a value names. -/
def stateOf? : Document → Option State
  | .str name => State.ofName? name
  | _ => none

/-- The text of a value, none for `null`. -/
def textOf? : Document → Option String
  | .null => none
  | value => some value.text

/-- The members of an object, none for any other value. -/
def membersOf? : Document → Option Members
  | .object members => some members
  | _ => none

/-- The result in an answer. Only a statement that succeeded has one, and only if it is told. -/
def resultOf (state : State) (body : Members) (id : String) : Except Breach (Option Members) :=
  match state, body.get? "result" with
  | .succeeded, some value => (objectOf "result" id value).map some
  | _, _ => .ok none

/-- The handle that an answer holds, `known` being the identifier that was asked for. -/
def read (answer : Document) (known : Option String) : Except Breach Handle :=
  match answer with
  | .object body =>
    match idOf? body known with
    | none => .error .missingId
    | some id => do
      let status ← objectOf "status" id (Document.member body "status")
      let told := Document.member status "state"
      match stateOf? told with
      | none => .error (.unknownState told.text id)
      | some state =>
        let error ← objectOf "status.error" id (Document.member status "error")
        let result ← resultOf state body id
        return {
          statementId := id
          state
          result
          manifest := membersOf? (Document.member body "manifest")
          errorMessage := textOf? (Document.member error "message")
          errorCode := textOf? (Document.member error "error_code") }
  | _ => .error .handleNotObject

end Handle

/-- The names of the columns of a result; what is no column is passed over. -/
def columnNames (manifest : Members) : List String :=
  match Document.member manifest "schema" with
  | .object schema =>
    match Document.member schema "columns" with
    | .list columns => columns.filterMap fun column =>
        (Handle.membersOf? column).map fun members => (Document.member members "name").text
    | _ => []
  | _ => []

end Indicator.Warehouse
