import Indicator.Text.Composed
import Indicator.Text.Hex
import Indicator.Text.LabelTable
import Indicator.Text.Punycode
import Indicator.Text.Quoted

/-!
# Names of hosts

Names of hosts in all scripts and in ASCII. A name is made of labels between dots. A label may hold
letters, marks and digits of any script in composed form; a few characters need certain neighbours,
and a label that holds a letter that runs from right to left must run so as a whole. A label that is
not in ASCII is written in letters and digits after four characters that mark it.
-/

namespace Indicator.Web.DomainName

/-! ### Faults -/

/-- Why the directions of the characters of a label do not go together. -/
inductive Misdirection
  | first (label : String)
  | inRightToLeft (position : Nat)
  | inLeftToRight (position : Nat)
  | mixedDigits
  | ending
deriving DecidableEq, Repr

/-- Why a text is no name of a host. -/
inductive Fault
  | emptyName
  | emptyLabel
  | longName
  | longLabel
  | notComposed
  | innerHyphens
  | outerHyphen
  | leadingMark
  | notAllowed (c : Char) (position : Nat) (label : String)
  | joiner (c : Char) (position : Nat) (label : String)
  | context (c : Char) (position : Nat) (label : String)
  | misdirected (what : Misdirection)
  | emptyCode
  | codeHyphen
  | badCode
deriving DecidableEq, Repr

def Misdirection.message : Misdirection → String
  | first label =>
    "First codepoint in label " ++ Text.quoted label ++ " must be directionality L, R or AL"
  | inRightToLeft position =>
    "Invalid direction for codepoint at position " ++ toString position ++
      " in a right-to-left label"
  | inLeftToRight position =>
    "Invalid direction for codepoint at position " ++ toString position ++
      " in a left-to-right label"
  | mixedDigits => "Can not mix numeral types in a right-to-left label"
  | ending => "Label ends with illegal codepoint directionality"

/-- The number of a character in at least four digits. -/
def codeText (c : Char) : String :=
  let code := (Text.surrogate? c).getD c.toNat
  let width := if code < 0x10000 then 4 else if code < 0x100000 then 5 else 6
  "U+" ++ String.ofList (Text.hexDigitsUpper width code)

def Fault.message : Fault → String
  | emptyName => "Empty domain"
  | emptyLabel => "Empty Label"
  | longName => "Domain too long"
  | longLabel => "Label too long"
  | notComposed => "Label must be in Normalization Form C"
  | innerHyphens => "Label has disallowed hyphens in 3rd and 4th position"
  | outerHyphen => "Label must not start or end with a hyphen"
  | leadingMark => "Label begins with an illegal combining character"
  | notAllowed c position label =>
    "Codepoint " ++ codeText c ++ " at position " ++ toString position ++ " of " ++
      Text.quoted label ++ " not allowed"
  | joiner c position label =>
    "Unknown codepoint adjacent to joiner " ++ codeText c ++ " at position " ++ toString position ++
      " in " ++ Text.quoted label
  | context c position label =>
    "Codepoint " ++ codeText c ++ " not allowed at position " ++ toString position ++ " in " ++
      Text.quoted label
  | misdirected what => what.message
  | emptyCode => "Malformed A-label, no Punycode eligible content found"
  | codeHyphen => "A-label must not end with a hyphen"
  | badCode => "Invalid A-label"

/-! ### Characters -/

/-- A character that may stand anywhere in a label. -/
def isPlain (c : Char) : Bool :=
  Text.labelRanges.any fun (first, last, step) =>
    first ≤ c.toNat && c.toNat ≤ last && (c.toNat - first) % step = 0

def isMark (c : Char) : Bool := Text.within Text.plainMarks c || Text.within Text.spacingMarks c

/-- The ways in which the characters of a label run. -/
inductive Direction
  | leftToRight
  | rightToLeft
  | arabicDigit
  | europeanDigit
  | neutral
  | mark
deriving DecidableEq

/-- The marks that run from left to right by themselves. -/
def directedMarks : List Nat := [0xCBF, 0xCC6, 0x11A07, 0x11A08, 0x11C3F]

/-- The direction of a character that a label may hold. -/
def directionOf (c : Char) : Direction :=
  if Text.within Text.rightToLeft c || Text.within Text.arabicLetters c then .rightToLeft
  else if Text.within Text.arabicDigits c then .arabicDigit
  else if Text.within Text.europeanDigits c then .europeanDigit
  else if c = '-' || c = '\u200C' || c = '\u200D' || Text.within Text.neutralSigns c then .neutral
  else if Text.within Text.plainMarks c && !directedMarks.contains c.toNat then .mark
  else .leftToRight

/-- A character that the joining of letters passes over. -/
def isTransparent (c : Char) : Bool :=
  (Text.within Text.plainMarks c && c.toNat ≠ 0x1171E) || c.toNat = 0x1E94B

/-! ### Characters that need certain neighbours -/

/-- The class of the mark that takes away the vowel of a letter. -/
def vowelKiller : Nat := 9

/-- A joiner between the characters before it, the last one first, and those after it. -/
def joinerFits (c : Char) (before after : List Char) : Bool :=
  let afterKiller := before.head?.map Text.markClass = some vowelKiller
  let neighbour (side : List Char) (joins : Char → Bool) : Bool :=
    ((side.dropWhile isTransparent).head?.map joins).getD false
  let joinsNext (c : Char) := Text.within Text.leftJoining c || Text.within Text.dualJoining c
  let joinsLast (c : Char) := Text.within Text.rightJoining c || Text.within Text.dualJoining c
  decide afterKiller || (c = '\u200C' && neighbour before joinsNext && neighbour after joinsLast)

def isArabicDigit (c : Char) : Bool := 0x660 ≤ c.toNat && c.toNat ≤ 0x669

def isPersianDigit (c : Char) : Bool := 0x6F0 ≤ c.toNat && c.toNat ≤ 0x6F9

/-- The signs that need certain neighbours. -/
def isContextual (c : Char) : Bool :=
  ['·', '͵', '׳', '״', '・'].contains c || isArabicDigit c || isPersianDigit c

/-- A sign between the characters before it, the last one first, and those after it. -/
def signFits (c : Char) (before after : List Char) : Bool :=
  if c = '·' then before.head? = some 'l' && after.head? = some 'l'
  else if c = '͵' then (after.head?.map (Text.within Text.greekScript)).getD false
  else if c = '׳' || c = '״' then (before.head?.map (Text.within Text.hebrewScript)).getD false
  else if c = '・' then
    (before ++ after).any fun other => other ≠ '・' && Text.within Text.easternScripts other
  else if isArabicDigit c then !(before ++ after).any isPersianDigit
  else !(before ++ after).any isArabicDigit

/-- Checks the characters of a label after those in `before`, which are in reverse. -/
def checkChars (label : String) (before : List Char) : List Char → Except Fault Unit
  | [] => .ok ()
  | c :: rest =>
    let position := before.length + 1
    if isPlain c then checkChars label (c :: before) rest
    else if c = '\u200C' ∨ c = '\u200D' then
      if joinerFits c before rest then checkChars label (c :: before) rest
      else .error (.joiner c position label)
    else if isContextual c then
      if signFits c before rest then checkChars label (c :: before) rest
      else .error (.context c position label)
    else .error (.notAllowed c position label)

/-! ### Directions -/

/-- Checks the directions from a position on of a label that runs from right to left, after the
digits that were met first. -/
def checkRightToLeft (position : Nat) (digits : Option Direction) :
    List Direction → Except Misdirection Unit
  | [] => .ok ()
  | direction :: rest =>
    if direction = .leftToRight then .error (.inRightToLeft position)
    else if direction = .arabicDigit ∨ direction = .europeanDigit then
      match digits with
      | none => checkRightToLeft (position + 1) (some direction) rest
      | some met =>
        if met = direction then checkRightToLeft (position + 1) digits rest else .error .mixedDigits
    else checkRightToLeft (position + 1) digits rest

/-- Checks the directions from a position on of a label that runs from left to right. -/
def checkLeftToRight (position : Nat) : List Direction → Except Misdirection Unit
  | [] => .ok ()
  | direction :: rest =>
    if direction = .rightToLeft ∨ direction = .arabicDigit then .error (.inLeftToRight position)
    else checkLeftToRight (position + 1) rest

/-- Checks the directions of a label, if any of them needs it. Marks at the end take the direction
of what they follow. -/
def checkDirections (label : String) (directions : List Direction) : Except Misdirection Unit := do
  if directions.all fun d => d ≠ .rightToLeft ∧ d ≠ .arabicDigit then return
  let final := (directions.reverse.dropWhile (· = .mark)).head?
  match directions with
  | .rightToLeft :: _ =>
    checkRightToLeft 1 none directions
    if [some .rightToLeft, some .arabicDigit, some .europeanDigit].contains final then return
    else .error .ending
  | .leftToRight :: _ =>
    checkLeftToRight 1 directions
    if [some .leftToRight, some .europeanDigit].contains final then return else .error .ending
  | _ => .error (.first label)

/-! ### Labels -/

/-- The most characters of a name that is looked at. -/
def maxName : Nat := 254

/-- The most characters of a label in ASCII. -/
def maxLabel : Nat := 63

/-- Checks a label. -/
def checkLabel (label : List Char) : Except Fault Unit := do
  let text := String.ofList label
  if label.isEmpty then .error .emptyLabel
  else if maxName < label.length then .error .longLabel
  else if !Text.isComposed label then .error .notComposed
  else if (label.drop 2).take 2 = ['-', '-'] then .error .innerHyphens
  else if label.head? = some '-' ∨ label.getLast? = some '-' then .error .outerHyphen
  else if (label.head?.map isMark).getD false then .error .leadingMark
  else
    checkChars text [] label
    (checkDirections text (label.map directionOf)).mapError .misdirected

/-- What marks a label that is not in ASCII. -/
def mark : List Char := "xn--".toList

/-- Checks a label in ASCII, which may stand for one that is not. -/
def checkAscii (label : List Char) : Except Fault Unit := do
  let label := label.map Char.toLower
  if mark.isPrefixOf label then
    let code := label.drop mark.length
    if code.isEmpty then .error .emptyCode
    else if code.getLast? = some '-' then .error .codeHyphen
    else match Text.Punycode.decode? (code.map Char.toUInt8) with
      | none => .error .badCode
      | some text => checkLabel text
  else checkLabel label

/-- A label in ASCII. -/
def encodeLabel (label : List Char) : Except Fault (List Char) := do
  let encoded ←
    if label.all (·.toNat < 0x80) then do
      checkAscii label
      pure label
    else do
      checkLabel label
      pure (mark ++ Text.Punycode.encode label)
  if maxLabel < encoded.length then .error .longLabel else return encoded

/-! ### Names -/

def isDot (c : Char) : Bool := ['.', '。', '．', '｡'].contains c

/-- The labels of a name, of which the last one may be empty. -/
def labelsOf : List Char → List (List Char)
  | [] => [[]]
  | c :: rest =>
    if isDot c then [] :: labelsOf rest
    else match labelsOf rest with
      | [] => [[c]]
      | label :: more => (c :: label) :: more

/-- The labels of a name, apart from an empty one at its end, and whether there is one. -/
def split (name : List Char) : Except Fault (List (List Char) × Bool) :=
  let labels := labelsOf name
  if maxName < name.length then .error .longName
  else if labels = [[]] then .error .emptyName
  else if labels.getLast? = some [] then .ok (labels.dropLast, true)
  else .ok (labels, false)

/-- A name in ASCII. -/
def encode (name : List Char) : Except Fault (List Char) := do
  let (labels, dotted) ← split name
  let encoded := ['.'].intercalate (← labels.mapM encodeLabel) ++ if dotted then ['.'] else []
  if (if dotted then maxName else maxName - 1) < encoded.length then .error .longName
  else return encoded

/-- Checks a name in ASCII, whose labels may stand for others. -/
def check (name : List Char) : Except Fault Unit := do
  let (labels, _) ← split name
  labels.forM checkAscii

end Indicator.Web.DomainName
