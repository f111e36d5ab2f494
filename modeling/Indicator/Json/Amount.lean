import Indicator.Json.Document
import Indicator.Number.Amount

/-!
# Amounts in documents

The numbers that documents are taken for where nothing has checked them. A truth value counts as
zero or one, and a text is read only as an integer.
-/

namespace Indicator.Json.Document

open Number (AmountFault)

/-- The name of a kind of document. -/
def kindName : Document → String
  | null => "NoneType"
  | bool _ => "bool"
  | int _ => "int"
  | float _ => "float"
  | str _ => "str"
  | list _ => "list"
  | object _ => "dict"

/-- The integer of a truth value. -/
def integerOfBool (value : Bool) : Int := if value then 1 else 0

/-- A document as an integer, a double cut off toward zero. -/
def toInteger : Document → Except AmountFault Int
  | bool value => .ok (integerOfBool value)
  | int value => .ok value
  | float value => Number.truncate value
  | str value => (Number.readInteger value).mapError .unread
  | other => .error (.notInteger other.kindName)

/-- A document as a duration that is added to an instant. -/
def toDuration : Document → Except AmountFault Float
  | bool value => .ok (if value then 1.0 else 0.0)
  | int value =>
    match Number.floatOfInt? value with
    | some x => .ok x
    | none => .error .oversized
  | float value => .ok value
  | other => .error (.notDuration other.kindName)

/-- A document as a duration that is compared with another. An integer beyond all doubles lies
beyond all durations. -/
def toBound : Document → Except AmountFault Float
  | bool value => .ok (if value then 1.0 else 0.0)
  | int value => .ok ((Number.floatOfInt? value).getD (if value < 0 then -1.0 / 0.0 else 1.0 / 0.0))
  | float value => .ok value
  | other => .error (.notComparable other.kindName)

end Indicator.Json.Document
