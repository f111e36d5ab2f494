import Indicator.Text.Blank
import Indicator.Text.CaseTable

/-!
# Letter case

Lower and upper case of a text by the full Unicode mappings. A mapping may lengthen the text, and
the lower case of a capital sigma depends on its neighbours: it has its final form where a letter
with case stands before it and none follows, characters that are ignorable for case being looked
past on both sides.
-/

namespace Indicator.Text

/-- The image of a code point under the first run it belongs to, or the code point itself. -/
def mapThrough (runs : List CaseRun) (c : Char) : Char :=
  match runs.findSome? (·.image? c.toNat) with
  | some code => Char.ofNat code
  | none => c

/-- The lower case of a character by itself. -/
def lowerOne (c : Char) : List Char :=
  if c.toNat < 0x80 then [c.toLower]
  else if c = 'İ' then ['i', '\u0307']
  else [mapThrough lowerRuns c]

/-- The upper case of a character. -/
def upperOne (c : Char) : List Char :=
  if c.toNat < 0x80 then [c.toUpper]
  else match upperExpansions.lookup c.toNat with
    | some codes => codes.map Char.ofNat
    | none => [mapThrough upperRuns c]

/-- Whether the first character that is not ignorable for case is a letter with case. -/
def startsCased (text : List Char) : Bool :=
  match text.dropWhile (within caseIgnorableRanges) with
  | [] => false
  | c :: _ => within casedRanges c

/-- The lower case of a capital sigma between `before`, read backwards, and `after`. -/
def lowerSigma (before after : List Char) : Char :=
  if startsCased before && !startsCased after then 'ς' else 'σ'

/-- The lower case of a text that follows `before`, which is read backwards. -/
def lowerAfter (before : List Char) : List Char → List Char
  | [] => []
  | c :: rest =>
    (if c = 'Σ' then [lowerSigma before rest] else lowerOne c) ++ lowerAfter (c :: before) rest

/-- The lower case of a text. -/
def lower (text : String) : String :=
  String.ofList (lowerAfter [] text.toList)

/-- The upper case of a text. -/
def upper (text : String) : String :=
  String.ofList (text.toList.flatMap upperOne)

/-- A text with its ASCII letters in lower case. -/
def lowerAscii (text : String) : String :=
  String.ofList (text.toList.map Char.toLower)

end Indicator.Text
