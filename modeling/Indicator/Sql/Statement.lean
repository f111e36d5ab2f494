import Indicator.Digest.Sha256
import Indicator.Text.Case
import Indicator.Text.Encodable
import Indicator.Text.Encoding

/-!
# Statements

A query as the texts of its clauses, the text they make, and the fingerprint of that text. The
fingerprint does not tell apart texts that differ in letter case or in the blanks between words.
-/

namespace Indicator.Sql

/-- The clauses of a query. An empty grouping or order is left out of the text. -/
structure Statement where
  select : String
  source : String
  condition : String
  grouping : String
  order : String
  rowLimit : Int
  dimensionLabel : String
deriving DecidableEq, Repr

namespace Statement

/-- The clauses that the text holds, in order, with the last one told how many rows to return. -/
def clauses (s : Statement) (limit : String) : List String :=
  [s.select, s.source, s.condition] ++ (if s.grouping = "" then [] else [s.grouping]) ++
    (if s.order = "" then [] else [s.order]) ++ ["LIMIT " ++ limit]

/-- The text of a query under a limit that is a text itself. -/
def textUnder (s : Statement) (limit : String) : String := " ".intercalate (s.clauses limit)

def text (s : Statement) : String := s.textUnder (toString s.rowLimit)

end Statement

/-- The text that a fingerprint is taken of. -/
def fingerprintText (sql : String) : String := Text.lower (Text.joinWords sql)

/-- The fingerprint of the text of a statement, which is taken of its octets. -/
def fingerprint (sql : String) : Except Text.Unencodable String :=
  (Text.Encoding.utf8.check (fingerprintText sql)).map fun text =>
    Digest.sha256 (Text.encodeUtf8 text)

end Indicator.Sql
