import Indicator.Number.Amount
import Indicator.Number.Decimal

/-!
# Time

Instants and durations are values of one type with zero, sums, differences and an order. The
engine runs on doubles; what is said of its runs with exact times is said of the rationals.
-/

namespace Indicator

/-- What a type of times needs beyond its arithmetic: a short text of a duration in seconds, and
its whole milliseconds, unless it has none. -/
class Timeline (τ : Type) where
  brief : τ → String
  millis : τ → Except Number.AmountFault Int

instance : Timeline Float where
  brief := Number.briefText
  millis seconds := Number.truncate (seconds * 1000.0)

section

variable {τ : Type} [LT τ] [DecidableLT τ]

/-- The later of two times, the first of two that do not compare. -/
def later (a b : τ) : τ := if a < b then b else a

/-- The sooner of two times, the first of two that do not compare. -/
def sooner (a b : τ) : τ := if b < a then b else a

/-- The whole milliseconds of a duration, none before it starts. -/
def millisBetween [Sub τ] [Timeline τ] (started now : τ) : Except Number.AmountFault Int :=
  (Timeline.millis (now - started)).map (max 0)

end

end Indicator
