import Indicator.Json.Document
import Indicator.Number.Integer
import Indicator.Text.Encoding

/-!
# Reading documents

The reader of JSON texts. Each part takes the characters from where it starts and returns what is
left. Blanks are the space, the tabulator and the two line ends; `NaN`, `Infinity` and `-Infinity`
are numbers; a control character in a string, a comma before a closing bracket and a zero before
other digits are refused. A refusal tells how many characters were left where the text went wrong,
from which its position follows. A document that is nested too deep is refused apart from all that
is wrong with its text.
-/

namespace Indicator.Json

/-- The documents that hold others. -/
inductive Container
  | list
  | object
deriving DecidableEq, Repr

def Container.name : Container → String
  | list => "JSON array"
  | object => "JSON object"

/-- Why a text is no document. -/
inductive Refusal
  /-- The text goes wrong at a position, counted in characters. -/
  | malformed (position : Nat)
  /-- The octets are no text, or a number has more digits than are read. -/
  | unreadable
  /-- The container that would be one too many inside of each other. -/
  | tooDeep (what : Container)
deriving DecidableEq

/-- Where the reading of a text stopped. -/
inductive Stop
  | before (left : Nat)
  | oversized
  | tooDeep (what : Container)

/-- The refusal of a text from `rest` on. -/
def refuseAt {α : Type} (rest : List Char) : Except Stop α := .error (.before rest.length)

def isBlank (c : Char) : Bool := c = ' ' || c = '\t' || c = '\n' || c = '\r'

def skipBlanks (text : List Char) : List Char := text.dropWhile isBlank

/-! ### Strings -/

/-- The character that a letter after a backslash stands for. -/
def plainEscape? : Char → Option Char
  | '"' => some '"'
  | '\\' => some '\\'
  | '/' => some '/'
  | 'b' => some '\x08'
  | 'f' => some '\x0C'
  | 'n' => some '\n'
  | 'r' => some '\r'
  | 't' => some '\t'
  | _ => none

/-- The number that four hexadecimal digits write. -/
def fourHex? (a b c d : Char) : Option Nat := do
  let w ← Text.hexValue? a
  let x ← Text.hexValue? b
  let y ← Text.hexValue? c
  let z ← Text.hexValue? d
  return ((w * 16 + x) * 16 + y) * 16 + z

/-- The units of a string after its opening quote, where `opening` characters were left before
that quote. An escape by number needs a character after its four digits. -/
def readUnits (opening : Nat) : List Char → Except Stop (List Nat × List Char)
  | [] => .error (.before opening)
  | '"' :: rest => .ok ([], rest)
  | ['\\'] => .error (.before opening)
  | '\\' :: 'u' :: a :: b :: c :: d :: next :: rest =>
    match fourHex? a b c d with
    | none => .error (.before (rest.length + 6))
    | some unit => do
      let (units, after) ← readUnits opening (next :: rest)
      return (unit :: units, after)
  | '\\' :: 'u' :: rest => .error (.before (rest.length + 1))
  | '\\' :: c :: rest =>
    match plainEscape? c with
    | none => .error (.before (rest.length + 2))
    | some plain => do
      let (units, after) ← readUnits opening rest
      return (plain.toNat :: units, after)
  | c :: rest =>
    if c.toNat < 0x20 then refuseAt (c :: rest)
    else do
      let (units, after) ← readUnits opening rest
      return (c.toNat :: units, after)

/-- A string after its opening quote. Two escapes that write a pair of surrogates are one
character. -/
def readString (rest : List Char) : Except Stop (String × List Char) := do
  let (units, after) ← readUnits (rest.length + 1) rest
  return (String.ofList (Text.charsOfUnits units), after)

/-! ### Numbers -/

/-- The digits of a fraction, which needs at least one. -/
def readFraction : List Char → List Char × List Char
  | '.' :: rest =>
    let digits := rest.takeWhile Char.isDigit
    if digits.isEmpty then ([], '.' :: rest) else (digits, rest.dropWhile Char.isDigit)
  | rest => ([], rest)

/-- The value of an exponent, which needs at least one digit. -/
def readExponent : List Char → Option Int × List Char
  | [] => (none, [])
  | mark :: rest =>
    let (negative, unsigned) : Bool × List Char :=
      match rest with
      | '-' :: more => (true, more)
      | '+' :: more => (false, more)
      | more => (false, more)
    let digits := unsigned.takeWhile Char.isDigit
    if (mark = 'e' || mark = 'E') && !digits.isEmpty then
      let power : Int := Number.digitsValue digits
      (some (if negative then -power else power), unsigned.dropWhile Char.isDigit)
    else (none, mark :: rest)

/-- A number without its sign: one zero or digits that do not start with one, then perhaps a
fraction and an exponent, either of which makes it a double. -/
def readUnsigned? (negative : Bool) (text : List Char) : Option (Except Stop (Document × List Char)) :=
  let (whole, rest) : List Char × List Char :=
    match text with
    | '0' :: more => (['0'], more)
    | more => (more.takeWhile Char.isDigit, more.dropWhile Char.isDigit)
  if whole.isEmpty then none
  else
    let (fraction, afterFraction) := readFraction rest
    let (exponent, after) := readExponent afterFraction
    if fraction.isEmpty && exponent.isNone then
      if Number.maxIntegerDigits < whole.length then some (.error .oversized)
      else
        let n : Int := Number.digitsValue whole
        some (.ok (.int (if negative then -n else n), after))
    else
      let x := Number.nearestFloat (Number.digitsValue (whole ++ fraction))
        (exponent.getD 0 - fraction.length)
      some (.ok (.float (if negative then -x else x), after))

/-- A number, or the refusal of the place where one should start. -/
def readNumber (text : List Char) : Except Stop (Document × List Char) :=
  let found? :=
    match text with
    | '-' :: rest => readUnsigned? true rest
    | rest => readUnsigned? false rest
  found?.getD (refuseAt text)

/-! ### Values -/

/-- How many containers may stand inside of each other. -/
def maxNesting : Nat := 975

mutual

/-- A value inside of which `room` containers may be nested. Every part of it starts at least one
character later, so the count of characters bounds the steps. -/
def readValue (room : Nat) : Nat → List Char → Except Stop (Document × List Char)
  | 0, text => refuseAt text
  | steps + 1, text =>
    match text with
    | '"' :: rest => do
      let (value, after) ← readString rest
      return (.str value, after)
    | '{' :: rest =>
      match room with
      | 0 => .error (.tooDeep .object)
      | room + 1 =>
        match skipBlanks rest with
        | '}' :: after => .ok (.object [], after)
        | inside => do
          let (members, after) ← readMembers room steps [] inside
          return (.object members, after)
    | '[' :: rest =>
      match room with
      | 0 => .error (.tooDeep .list)
      | room + 1 =>
        match skipBlanks rest with
        | ']' :: after => .ok (.list [], after)
        | inside => do
          let (items, after) ← readItems room steps inside
          return (.list items, after)
    | 'n' :: 'u' :: 'l' :: 'l' :: after => .ok (.null, after)
    | 't' :: 'r' :: 'u' :: 'e' :: after => .ok (.bool true, after)
    | 'f' :: 'a' :: 'l' :: 's' :: 'e' :: after => .ok (.bool false, after)
    | 'N' :: 'a' :: 'N' :: after => .ok (.float (0.0 / 0.0), after)
    | 'I' :: 'n' :: 'f' :: 'i' :: 'n' :: 'i' :: 't' :: 'y' :: after => .ok (.float (1.0 / 0.0), after)
    | '-' :: 'I' :: 'n' :: 'f' :: 'i' :: 'n' :: 'i' :: 't' :: 'y' :: after =>
      .ok (.float (-1.0 / 0.0), after)
    | other => readNumber other

/-- The items of a list, from the first item to the closing bracket. -/
def readItems (room : Nat) : Nat → List Char → Except Stop (List Document × List Char)
  | 0, text => refuseAt text
  | steps + 1, text => do
    let (item, rest) ← readValue room steps text
    match skipBlanks rest with
    | ']' :: after => return ([item], after)
    | ',' :: more =>
      let (items, after) ← readItems room steps (skipBlanks more)
      return (item :: items, after)
    | other => refuseAt other

/-- The members of an object after those in `members`, from a key to the closing brace. -/
def readMembers (room : Nat) : Nat → Members → List Char → Except Stop (Members × List Char)
  | 0, _, text => refuseAt text
  | steps + 1, members, text =>
    match text with
    | '"' :: inKey => do
      let (key, afterKey) ← readString inKey
      match skipBlanks afterKey with
      | ':' :: more =>
        let (value, rest) ← readValue room steps (skipBlanks more)
        let members := members.insert key value
        match skipBlanks rest with
        | '}' :: after => return (members, after)
        | ',' :: more => readMembers room steps members (skipBlanks more)
        | other => refuseAt other
      | other => refuseAt other
    | other => refuseAt other

end

/-- The document that a text holds, with nothing but blanks around it. -/
def Document.read (text : List Char) : Except Refusal Document :=
  let found : Except Stop Document := do
    let (value, rest) ← readValue maxNesting (2 * text.length + 2) (skipBlanks text)
    match skipBlanks rest with
    | [] => return value
    | extra => refuseAt extra
  match found with
  | .ok value => .ok value
  | .error (.before left) => .error (.malformed (text.length - left))
  | .error .oversized => .error .unreadable
  | .error (.tooDeep what) => .error (.tooDeep what)

/-- The document that octets hold. -/
def Document.ofOctets (octets : List UInt8) : Except Refusal Document :=
  match Text.decodeJson? octets with
  | none => .error .unreadable
  | some text => Document.read text

end Indicator.Json
