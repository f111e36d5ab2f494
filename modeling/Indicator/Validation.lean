import Indicator.Json.Document

/-!
# Validation

Checking of values that come from outside. A check that fails lists every fault it found, each
with the path to the value, so checks of several fields are put together without losing one.
-/

namespace Indicator

/-- What is wrong with a value. -/
inductive Complaint
  | missing
  | notString
  /-- A string that holds a lone surrogate, where a name is read. -/
  | unreadableString
  | notList
  | notRecord (name : String)
  | notDictionary
  | notOneOf (choices : List String)
  | notInteger
  | integerSyntax
  | integerSize
  | fraction
  | notFinite
  | notNumber
  | numberSyntax
  | notBoolean
  | booleanWord
  | shortRequestTimeout
  | jsonSyntax
deriving DecidableEq, Repr

/-- Choices in quotes, the last one after `or`. -/
def choicesText : List String → String
  | [] => ""
  | [choice] => Text.quoted choice
  | [choice, final] => Text.quoted choice ++ " or " ++ Text.quoted final
  | choice :: rest => Text.quoted choice ++ ", " ++ choicesText rest

def Complaint.message : Complaint → String
  | missing => "Field required"
  | notString => "Input should be a valid string"
  | unreadableString =>
    "Input should be a valid string, unable to parse raw data as a unicode string"
  | notList => "Input should be a valid list"
  | notRecord name => "Input should be a valid dictionary or instance of " ++ name
  | notDictionary => "Input should be a valid dictionary"
  | notOneOf choices => "Input should be " ++ choicesText choices
  | notInteger => "Input should be a valid integer"
  | integerSyntax => "Input should be a valid integer, unable to parse string as an integer"
  | integerSize => "Unable to parse input string as an integer, exceeded maximum size"
  | fraction => "Input should be a valid integer, got a number with a fractional part"
  | notFinite => "Input should be a finite number"
  | notNumber => "Input should be a valid number"
  | numberSyntax => "Input should be a valid number, unable to parse string as a number"
  | notBoolean => "Input should be a valid boolean"
  | booleanWord => "Input should be a valid boolean, unable to interpret input"
  | shortRequestTimeout =>
    "Value error, REQUEST_TIMEOUT_SECONDS must exceed the longest statement deadline plus one cancel request"
  | jsonSyntax => "JSON decode error"

/-- A complaint and the path to what it is about. -/
structure FieldFault where
  path : List String
  complaint : Complaint
deriving DecidableEq, Repr

/-- The path as one text. -/
def FieldFault.field (fault : FieldFault) : String := ".".intercalate fault.path

/-- The fault seen from one level above. -/
def FieldFault.under (key : String) (fault : FieldFault) : FieldFault :=
  ⟨key :: fault.path, fault.complaint⟩

def FieldFault.toDocument (fault : FieldFault) : Json.Document :=
  .object [("field", .str fault.field), ("message", .str fault.complaint.message)]

/-- A value, or all faults that were found. -/
abbrev Checked (α : Type) := Except (List FieldFault) α

namespace Checked

/-- One complaint about a value by itself. -/
def refuse {α : Type} (complaint : Complaint) : Checked α := .error [⟨[], complaint⟩]

/-- A check of the value of a key. -/
def under {α : Type} (key : String) (check : Checked α) : Checked α :=
  check.mapError (·.map (·.under key))

/-- A function of one more checked value; the faults of both sides are kept in order. -/
def along {α β : Type} (next : Checked α) (soFar : Checked (α → β)) : Checked β :=
  match soFar, next with
  | .ok f, .ok a => .ok (f a)
  | .ok _, .error faults => .error faults
  | .error faults, .ok _ => .error faults
  | .error faults, .error more => .error (faults ++ more)

/-- Checks of the items of a list, each under its number. -/
def items {α β : Type} (check : α → Checked β) : Nat → List α → Checked (List β)
  | _, [] => .ok []
  | index, item :: rest =>
    (under (toString index) (check item)).map List.cons |> along (items check (index + 1) rest)

end Checked

end Indicator
