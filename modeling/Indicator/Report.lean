import Indicator.Failure
import Indicator.Request.Basic

/-!
# Reports

The rows of a result as a caller sees them. Each row must be a list of at least as many cells as
the query asks for; further cells are passed over.
-/

namespace Indicator

open Json (Document)

/-- A value of the dimension with the current value and that of the year before. -/
structure KpiRow where
  dimension : Document
  current : Document
  prior : Document

/-- A value that can be chosen, with the text that stands for it. -/
structure OptionRow where
  label : Document
  value : Document

def KpiRow.toDocument (row : KpiRow) : Document :=
  .object [("dimension", row.dimension), ("currentValue", row.current), ("priorValue", row.prior)]

def OptionRow.toDocument (row : OptionRow) : Document :=
  .object [("label", row.label), ("value", row.value)]

/-- The three cells of a row. -/
def KpiRow.ofDocument? : Document → Option KpiRow
  | .list (dimension :: current :: prior :: _) => some ⟨dimension, current, prior⟩
  | _ => none

/-- The one cell of a row. -/
def OptionRow.ofDocument? : Document → Option OptionRow
  | .list (cell :: _) => some ⟨cell, cell⟩
  | _ => none

/-- Rows of at least `width` cells, the first of them with the number `index`. -/
def readRows {α : Type} (width : Nat) (ofDocument? : Document → Option α) (index : Nat) :
    List Document → Except Failure (List α)
  | [] => .ok []
  | row :: rest =>
    match ofDocument? row with
    | none => .error (.breach (.narrowRow index width))
    | some found => (readRows width ofDocument? (index + 1) rest).map (found :: ·)

def kpiRows (rows : List Document) : Except Failure (List KpiRow) :=
  readRows 3 KpiRow.ofDocument? 0 rows

def optionRows (rows : List Document) : Except Failure (List OptionRow) :=
  readRows 1 OptionRow.ofDocument? 0 rows

/-- A report of the first rows only, as many as `cap` says. -/
def capped {α : Type} (cap : Int) (read : List Document → Except Failure (List α))
    (rows : List Document) : Except Failure (List α) :=
  read (rows.take cap.toNat)

/-! ### Answers -/

structure KpiAnswer where
  kpi : String
  groupBy : Grouping
  scope : Scope
  rows : List KpiRow
  statementId : String
  sqlHash : String
  elapsedMs : Int

structure OptionsAnswer where
  dimension : String
  table : String
  rows : List OptionRow
  statementId : String
  sqlHash : String
  elapsedMs : Int

def KpiAnswer.toDocument (answer : KpiAnswer) : Document :=
  .object [("kpi", .str answer.kpi), ("groupBy", .str answer.groupBy.name),
    ("scope", .str answer.scope.name), ("rows", .list (answer.rows.map KpiRow.toDocument)),
    ("rowCount", .int answer.rows.length), ("statementId", .str answer.statementId),
    ("sqlHash", .str answer.sqlHash), ("executionTimeMs", .int answer.elapsedMs)]

def OptionsAnswer.toDocument (answer : OptionsAnswer) : Document :=
  .object [("dimension", .str answer.dimension), ("table", .str answer.table),
    ("rows", .list (answer.rows.map OptionRow.toDocument)),
    ("rowCount", .int answer.rows.length), ("statementId", .str answer.statementId),
    ("sqlHash", .str answer.sqlHash), ("executionTimeMs", .int answer.elapsedMs)]

end Indicator
