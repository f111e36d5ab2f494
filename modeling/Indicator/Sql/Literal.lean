import Indicator.Json.Document

/-!
# Identifiers and literals

The two forms in which a value from outside enters a statement. An identifier is cut down to
ASCII letters, digits and the underscore. A literal keeps all of its text between apostrophes, the
apostrophe and the backslash being written twice.
-/

namespace Indicator.Sql

/-- The characters of an identifier. -/
def isIdentifierChar (c : Char) : Bool := c.isAlphanum || c = '_'

/-- A text with all other characters left out. -/
def identifier (text : String) : String := String.ofList (text.toList.filter isIdentifierChar)

/-- A character inside of a literal. -/
def escapeChar (c : Char) : List Char :=
  if c = '\\' ∨ c = '\'' then [c, c] else [c]

/-- A text as it stands inside of a literal. -/
def escape (text : String) : String := String.ofList (text.toList.flatMap escapeChar)

/-- A text as a literal. -/
def literal (text : String) : String := "'" ++ escape text ++ "'"

/-- The name of a table in a schema in a catalog; an empty part is left out. -/
def tableName (catalog schema table : String) : String :=
  ".".intercalate (([catalog, schema, table].map identifier).filter (· ≠ ""))

end Indicator.Sql
