import Indicator.Json.Reader
import Indicator.Text.Case
import Indicator.Validation

/-!
# Coercion of settings

A setting is given as a document of its own type or as a text that stands for one. Each reader
here says which values it takes and which complaint every other value gets.
-/

namespace Indicator.Settings

open Json (Document)

/-- The spaces and line separators of the Unicode table. -/
def spaceRanges : List (Nat × Nat) :=
  [(0x09, 0x0D), (0x20, 0x20), (0x85, 0x85), (0xA0, 0xA0), (0x1680, 0x1680), (0x2000, 0x200A),
    (0x2028, 0x2029), (0x202F, 0x202F), (0x205F, 0x205F), (0x3000, 0x3000)]

def trimSpaces (text : List Char) : List Char := Text.trimBy (Text.within spaceRanges) text

/-- Whether one of the neighbours of each underscore is another one or the end of the text. -/
def hasLooseUnderscore : List Char → Bool
  | [] => false
  | ['_'] => true
  | '_' :: '_' :: _ => true
  | _ :: rest => hasLooseUnderscore rest

/-- A text without its underscores, each of which must stand alone between other characters. -/
def dropUnderscores? (text : List Char) : Option (List Char) :=
  if text.head? = some '_' || hasLooseUnderscore text then none
  else some (text.filter (· ≠ '_'))

/-! ### Integers -/

/-- Digits without the zeros and underscores at their start. One zero is kept where nothing or a
point follows. -/
def dropLeadingZeros : List Char → Option (List Char)
  | [] => none
  | c :: rest =>
    if c = '0' then
      let skipped := rest.takeWhile fun d => d = '0' || d = '_'
      match rest.dropWhile (fun d => d = '0' || d = '_') with
      | [] => some [skipped.getLast?.getD '0']
      | '.' :: more => some (skipped.getLast?.getD '0' :: '.' :: more)
      | d :: more => if d.isDigit then some (d :: more) else none
    else if c.isDigit then some (c :: rest)
    else none

/-- A number without a fraction that consists of zeros. -/
def dropZeroFraction (text : List Char) : List Char :=
  match text.dropWhile (· ≠ '.') with
  | '.' :: '0' :: zeros => if zeros.all (· = '0') then text.takeWhile (· ≠ '.') else text
  | _ => text

/-- The value of digits after an optional sign, with no zero before other digits. -/
def plainInteger? (text : List Char) : Option Int :=
  let (negative, digits) : Bool × List Char :=
    match text with
    | '-' :: rest => (true, rest)
    | rest => (false, rest)
  if digits.isEmpty || !digits.all Char.isDigit || (digits.length > 1 && digits.head? = some '0') then
    none
  else
    let n : Int := Number.digitsValue digits
    some (if negative then -n else n)

/-- A text in the plainest form of the same integer: no blanks, no plus sign, no zeros in front, no
fraction of zeros and no underscores. -/
def plainIntegerText? (text : List Char) : Option (List Char) := do
  let (sign, unsigned) : List Char × List Char :=
    match trimSpaces text with
    | '-' :: rest => (['-'], rest)
    | '+' :: rest => ([], rest)
    | rest => ([], rest)
  let whole := dropZeroFraction (← dropLeadingZeros unsigned)
  return sign ++ (dropUnderscores? whole).getD whole

def readInteger : Document → Checked Int
  | .int n => .ok n
  | .bool b => .ok (if b then 1 else 0)
  | .float x =>
    match Number.truncated? x with
    | none => Checked.refuse .notFinite
    | some (_, true) => Checked.refuse .fraction
    | some (n, false) => if n.natAbs < Nat.pow 2 63 then .ok n else Checked.refuse .integerSize
  | .str text =>
    match plainIntegerText? text.toList with
    | none => Checked.refuse .integerSyntax
    | some plain =>
      if Number.maxIntegerDigits < plain.length then Checked.refuse .integerSize
      else match plainInteger? plain with
        | some n => .ok n
        | none => Checked.refuse .integerSyntax
  | _ => Checked.refuse .notInteger

/-! ### Numbers -/

/-- The double that digits with an optional point and exponent stand for. -/
def plainNumber? (text : List Char) : Option Float :=
  let whole := text.takeWhile Char.isDigit
  let rest := text.dropWhile Char.isDigit
  let (fraction, rest) : List Char × List Char :=
    match rest with
    | '.' :: more => (more.takeWhile Char.isDigit, more.dropWhile Char.isDigit)
    | more => ([], more)
  if whole.isEmpty && fraction.isEmpty then none
  else match Json.readExponent rest with
    | (exponent, []) =>
      some (Number.nearestFloat (Number.digitsValue (whole ++ fraction))
        (exponent.getD 0 - fraction.length))
    | _ => none

/-- The double that a text without blanks stands for, by digits or by name. -/
def unsignedNumber? (text : List Char) : Option Float :=
  let word := String.ofList (text.map Char.toLower)
  if word = "inf" ∨ word = "infinity" then some (1.0 / 0.0)
  else if word = "nan" then some (0.0 / 0.0)
  else plainNumber? text

def signedNumber? : List Char → Option Float
  | '-' :: rest => (unsignedNumber? rest).map (-·)
  | '+' :: rest => unsignedNumber? rest
  | rest => unsignedNumber? rest

/-- The double that a text stands for. -/
def numberOfText? (text : List Char) : Option Float :=
  (signedNumber? (trimSpaces text)).or ((dropUnderscores? text).bind signedNumber?)

def readNumber : Document → Checked Float
  | .float x => .ok x
  | .int n =>
    match Number.floatOfInt? n with
    | some x => .ok x
    | none => Checked.refuse .notNumber
  | .bool b => .ok (if b then 1.0 else 0.0)
  | .str text =>
    match numberOfText? text.toList with
    | some x => .ok x
    | none => Checked.refuse .numberSyntax
  | _ => Checked.refuse .notNumber

/-! ### Truth values -/

def yesWords : List String := ["1", "true", "t", "yes", "y", "on"]

def noWords : List String := ["0", "false", "f", "no", "n", "off"]

/-- Whether an integer fits in a machine word. -/
def isWord (n : Int) : Bool := -Int.pow 2 63 ≤ n && n < Int.pow 2 63

def truthOfInteger (n : Int) : Checked Bool :=
  if n = 0 then .ok false
  else if n = 1 then .ok true
  else Checked.refuse (if isWord n then .booleanWord else .notBoolean)

def readTruth : Document → Checked Bool
  | .bool b => .ok b
  | .int n => truthOfInteger n
  | .float x =>
    match Number.truncated? x with
    | some (n, false) => truthOfInteger n
    | _ => Checked.refuse .notBoolean
  | .str text =>
    let word := Text.lowerAscii text
    if yesWords.contains word then .ok true
    else if noWords.contains word then .ok false
    else Checked.refuse .booleanWord
  | _ => Checked.refuse .notBoolean

/-! ### Texts and lists -/

def readText : Document → Checked String
  | .str value => .ok value
  | _ => Checked.refuse .notString

def readTexts : Document → Checked (List String)
  | .list items => Checked.items readText 0 items
  | _ => Checked.refuse .notList

end Indicator.Settings
