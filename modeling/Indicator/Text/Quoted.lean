import Indicator.Text.Blank
import Indicator.Text.Hex
import Indicator.Text.PrintableTable
import Indicator.Text.Surrogate

/-!
# Quoted text

A text between quotation marks on one line. The mark is the apostrophe, unless the text holds an
apostrophe and no double quote. The mark, the backslash and every character that is not printable
are escaped.
-/

namespace Indicator.Text

/-- A character that a quoted text shows as it is. -/
def isPrintable (c : Char) : Bool := !within unprintableRanges c

/-- The quotation mark for a text. -/
def quoteMark (text : List Char) : Char :=
  if text.contains '\'' && !text.contains '"' then '"' else '\''

/-- The escape of a character by its number: two, four or eight digits. -/
def escapeCode (c : Char) : List Char :=
  let code := (surrogate? c).getD c.toNat
  if code < 0x100 then '\\' :: 'x' :: hexDigits 2 code
  else if code < 0x10000 then '\\' :: 'u' :: hexDigits 4 code
  else '\\' :: 'U' :: hexDigits 8 code

/-- A character as it stands between two marks. -/
def escapeWithin (mark : Char) (c : Char) : List Char :=
  if c = mark ∨ c = '\\' then ['\\', c]
  else if c = '\n' then ['\\', 'n']
  else if c = '\r' then ['\\', 'r']
  else if c = '\t' then ['\\', 't']
  else if isPrintable c then [c]
  else escapeCode c

/-- A text between its quotation marks. -/
def quoted (text : String) : String :=
  let mark := quoteMark text.toList
  String.ofList (mark :: text.toList.flatMap (escapeWithin mark) ++ [mark])

end Indicator.Text
