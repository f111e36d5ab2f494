import Indicator.Catalog
import Indicator.Sql.Literal

/-!
# Predicates

The comparisons that select the rows of a statement, apart from their text.
-/

namespace Indicator.Sql

inductive Predicate
  /-- Holds of every row. -/
  | always
  /-- The month is the latest one in a table. -/
  | latestMonth (table : String)
  /-- The month lies between two months, both included. -/
  | monthBetween (first last : String)
  /-- A column holds a value. -/
  | equal (column value : String)
  /-- A column holds one of several values. -/
  | oneOf (column : String) (values : List String)
  /-- A column holds another value. -/
  | different (column value : String)
  /-- A column holds any value. -/
  | present (column : String)
deriving DecidableEq, Repr

namespace Predicate

def text : Predicate → String
  | always => "1 = 1"
  | latestMonth table =>
    Column.month ++ " = (SELECT MAX(" ++ Column.month ++ ") FROM " ++ table ++ ")"
  | monthBetween first last =>
    Column.month ++ " BETWEEN " ++ literal first ++ " AND " ++ literal last
  | equal column value => column ++ " = " ++ literal value
  | oneOf column values => column ++ " IN (" ++ ", ".intercalate (values.map literal) ++ ")"
  | different column value => column ++ " <> " ++ literal value
  | present column => column ++ " IS NOT NULL"

/-- The predicate that a column holds one of some values; no values ask for nothing. -/
def among? (column : String) (values : List String) : Option Predicate :=
  if values.isEmpty then none else some (oneOf column values)

theorem among?_eq_some {column : String} {values : List String} {p : Predicate} :
    among? column values = some p ↔ values ≠ [] ∧ p = oneOf column values := by
  cases values with
  | nil => simp [among?]
  | cons value values => simp [among?, eq_comm]

/-- Predicates of which all must hold. -/
def conjunction (predicates : List Predicate) : String :=
  " AND ".intercalate (predicates.map text)

end Predicate

end Indicator.Sql
