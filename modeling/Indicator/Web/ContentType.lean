import Indicator.Number.Integer
import Indicator.Text.Blank
import Indicator.Text.Case
import Indicator.Text.Charset
import Indicator.Web.Url

/-!
# Content types

The type of a body as a header declares it: what kind of content it is, and the character set of
a text. A header is a list of parameters between semicolons, the first of which is the kind. A
long value may be spread over several parameters, numbered after an asterisk, and one whose name
ends in an asterisk tells its own character set and is percent-encoded.
-/

namespace Indicator.Web

/-- Why it cannot be told which character set a header declares. -/
inductive ContentType.Flaw
  /-- A segment without a number follows numbered ones of the same value. -/
  | unnumbered
  /-- A numbered segment follows ones of the same value that have no number. -/
  | numbered
  | badNumber (what : Number.IntegerFault)
  /-- The name is told in a set whose own name holds a character that no name may hold. -/
  | nulInName
deriving DecidableEq, Repr

def ContentType.Flaw.message : ContentType.Flaw → String
  | unnumbered => "'<' not supported between instances of 'NoneType' and 'int'"
  | numbered => "'<' not supported between instances of 'int' and 'NoneType'"
  | badNumber what => what.message
  | nulInName => Text.Charset.Fault.nulInName.message

structure ContentType where
  main : String
  sub : String
  charset : Except ContentType.Flaw (Option String)

namespace ContentType

def trimmed (text : List Char) : List Char := Text.trimBy Text.isBlank text

/-! ### Quotes -/

/-- Takes out the backslash before each character of a kind. -/
def dropBefore (mark : Char) : List Char → List Char
  | '\\' :: c :: rest =>
    if c = mark then c :: dropBefore mark rest else '\\' :: dropBefore mark (c :: rest)
  | c :: rest => c :: dropBefore mark rest
  | [] => []

/-- A value without the quotes or angle brackets around it. -/
def unquoted (text : List Char) : List Char :=
  match text, text.getLast? with
  | '"' :: _ :: _, some '"' => dropBefore '"' (dropBefore '\\' (text.drop 1).dropLast)
  | '<' :: _ :: _, some '>' => (text.drop 1).dropLast
  | _, _ => text

/-- A value with a backslash before each backslash and quote. -/
def escaped (text : List Char) : List Char :=
  text.flatMap fun c => if c = '\\' || c = '"' then ['\\', c] else [c]

/-- A value that has been escaped, without its escapes. -/
def unescaped (text : List Char) : List Char := dropBefore '"' (dropBefore '\\' text)

/-! ### Parameters -/

/-- The parts of a header between semicolons that are not inside of quotes, where `inside` tells
of the character before the text and `before` is that character. A quote after a backslash counts
for nothing. -/
def splitParts (inside : Bool) (before : Char) : List Char → List (List Char)
  | [] => [[]]
  | c :: rest =>
    if c = ';' && !inside then [] :: splitParts false ';' rest
    else
      let inside := if c = '"' && before ≠ '\\' then !inside else inside
      match splitParts inside c rest with
      | [] => [[c]]
      | part :: more => (c :: part) :: more

/-- A part as a name and a value; a part without an equals sign is a name. -/
def pairOf (part : List Char) : List Char × List Char :=
  match part.dropWhile (· ≠ '=') with
  | '=' :: value =>
    ((Text.lower (String.ofList (trimmed (part.takeWhile (· ≠ '='))))).toList, trimmed value)
  | _ => (trimmed part, [])

/-- One of the parameters that a value is spread over. The only one need not be numbered. -/
structure Segment where
  number : Option Nat
  value : List Char
  isEncoded : Bool

/-- The name that parameters share over which a value is spread, with the digits of the segment's
number and whether it is percent-encoded. -/
def segmentName? (name : List Char) : Option (List Char × List Char × Bool) :=
  let isWord (c : Char) := c.isAlphanum || c = '_'
  match name.takeWhile isWord, name.dropWhile isWord with
  | _ :: _, ['*'] => some (name.takeWhile isWord, [], true)
  | _ :: _, '*' :: number =>
    let digits := number.takeWhile Char.isDigit
    match digits, number.dropWhile Char.isDigit with
    | _ :: _, [] => some (name.takeWhile isWord, digits, false)
    | _ :: _, ['*'] => some (name.takeWhile isWord, digits, true)
    | _, _ => none
  | _, _ => none

/-- The number that digits stand for, if there are any. -/
def segmentNumber (digits : List Char) : Except Flaw (Option Nat) :=
  if digits.isEmpty then .ok none
  else if Number.maxIntegerDigits < digits.length then .error (.badNumber (.tooLong digits.length))
  else .ok (some (Number.digitsValue digits))

/-- The segments among parameters, each with the name that it shares. -/
def segmentsOf (pairs : List (List Char × List Char)) : Except Flaw (List (List Char × Segment)) :=
  (pairs.filterMap fun pair => (segmentName? pair.1).map (·, pair.2)).mapM
    fun ((name, digits, isEncoded), value) => do
      return (name, ⟨← segmentNumber digits, unquoted value, isEncoded⟩)

/-- Segments go by their numbers, those of one number by their values. -/
def Segment.before (a b : Segment) : Bool :=
  let first := a.number.getD 0
  let second := b.number.getD 0
  first < second || (first = second && !decide (b.value < a.value))

/-- The segments of one value in order. There is none if only some of them are numbered, which
shows at the first one that differs from those before. -/
def inOrder (segments : List Segment) : Except Flaw (List Segment) :=
  let areNumbered := segments.head?.any (·.number.isSome)
  if segments.all (·.number.isSome = areNumbered) then .ok (segments.mergeSort Segment.before)
  else .error (if areNumbered then .unnumbered else .numbered)

/-- The values that are spread out, by their names, each with its segments in order. -/
def spreadValues (pairs : List (List Char × List Char)) :
    Except Flaw (List (List Char × List Segment)) := do
  let segments ← segmentsOf pairs
  (segments.map (·.1)).eraseDups.mapM fun name => do
    return (name, ← inOrder ((segments.filter (·.1 = name)).map (·.2)))

/-- The characters of a percent-encoded text, one for each octet. -/
def latinDecode (text : List Char) : List Char :=
  (percentDecode text).map fun b => Text.charOfCode b.toNat

/-- Octets that are a text in a set without any mark. Wide units without a byte order mark have
their lower half first. -/
def readStrictly? (charset : String) (octets : List UInt8) : Option (List Char) :=
  let text? :=
    match Text.Charset.decode charset octets with
    | .ok text => some text
    | .error (.unmarked 16) => some (Text.Charset.readUnits16 false octets)
    | .error (.unmarked _) => some (Text.Charset.readUnits32 false octets)
    | .error _ => none
  text?.filter fun text => !text.contains Text.replacement

/-- The value that segments make. One with an encoded segment starts with the name of a character
set and a language, each before an apostrophe; where these are missing it is in ASCII. A value that
cannot be read in its own set stands as it is. -/
def joinSegments (segments : List Segment) : Except Flaw (List Char) :=
  let value := segments.flatMap fun segment =>
    if segment.isEncoded then latinDecode segment.value else segment.value
  if segments.all (!·.isEncoded) then .ok value
  else
    let (charset, text) : List Char × List Char :=
      match splitAt '\'' (escaped value) with
      | charset :: _ :: first :: more => (charset, ['\''].intercalate (first :: more))
      | _ => ([], escaped value)
    let text := unescaped text
    let charset := if charset.isEmpty then "ascii" else String.ofList charset
    if charset.toList.contains '\x00' then .error .nulInName
    else if (Text.Charset.find? charset).isNone then .ok text
    else .ok ((readStrictly? charset (text.map fun c => UInt8.ofNat c.toNat)).getD text)

/-- The character set that parameters name. The first one of that name counts, a value that is
spread out comes after all others, and the kind itself may be given in place of a parameter. -/
def charsetOf (pairs : List (List Char × List Char)) : Except Flaw (Option (List Char)) := do
  let isNamed (name : List Char) : Bool := name.map Char.toLower = "charset".toList
  let plain := pairs.take 1 ++ (pairs.drop 1).filter fun pair => (segmentName? pair.1).isNone
  let spread ← spreadValues (pairs.drop 1)
  match plain.find? (isNamed ·.1), spread.find? (isNamed ·.1) with
  | some pair, _ => return some (unquoted pair.2)
  | none, some found => return some (← joinSegments found.2)
  | none, none => return none

/-- The content type of a header. One that is not made of two parts is plain text, and the name of
a character set is in ASCII. -/
def parse (header : String) : ContentType :=
  let charset := (charsetOf ((splitParts false ' ' header.toList).map pairOf)).map fun found =>
    (found.filter fun name => name.all (·.toNat < 0x80)).map fun name =>
      String.ofList (name.map Char.toLower)
  let kind := Text.lower (String.ofList (trimmed ((splitAt ';' header.toList).headD [])))
  match splitAt '/' kind.toList with
  | [main, sub] => ⟨String.ofList main, String.ofList sub, charset⟩
  | _ => ⟨"text", "plain", charset⟩

/-- A body that is declared to be JSON, or a format made of it. -/
def isJson (type : ContentType) : Bool :=
  type.main = "application" && (type.sub = "json" || type.sub.endsWith "+json")

end ContentType

end Indicator.Web
