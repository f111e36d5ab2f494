import Indicator.Number.Binary64
import Indicator.Number.Integer

/-!
# Amounts

An amount is a number that a value of any kind is taken for: a count of rows, a duration. This
module says why a value is none, and cuts a double off to an integer.
-/

namespace Indicator.Number

/-- Why a value cannot be used as an amount; `kind` names the kind of a value that is no number. -/
inductive AmountFault
  /-- A text that is no integer. -/
  | unread (what : IntegerFault)
  | infinite
  | undefined
  /-- An integer beyond all doubles. -/
  | oversized
  | notInteger (kind : String)
  | notDuration (kind : String)
  | notComparable (kind : String)
deriving DecidableEq, Repr

def AmountFault.message : AmountFault → String
  | unread what => what.message
  | infinite => "cannot convert float infinity to integer"
  | undefined => "cannot convert float NaN to integer"
  | oversized => "int too large to convert to float"
  | notInteger kind =>
    "int() argument must be a string, a bytes-like object or a real number, not '" ++ kind ++ "'"
  | notDuration kind => "unsupported operand type(s) for +: 'float' and '" ++ kind ++ "'"
  | notComparable kind =>
    "'<' not supported between instances of 'float' and '" ++ kind ++ "'"

/-- A double as an integer, cut off toward zero. -/
def truncate (x : Float) : Except AmountFault Int :=
  match truncated? x with
  | some (n, _) => .ok n
  | none => .error (if x.isNaN then .undefined else .infinite)

end Indicator.Number
