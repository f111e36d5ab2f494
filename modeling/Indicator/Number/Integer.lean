import Indicator.Text.Blank
import Indicator.Text.Quoted

/-!
# Integers in decimal

The integer that a text stands for: digits of any script after an optional sign, with blanks around
them. Single underscores may stand between digits. A number with too many digits is not read.
-/

namespace Indicator.Number

/-- The value of decimal digits in ASCII. -/
def digitsValue (digits : List Char) : Nat :=
  digits.foldl (fun n c => 10 * n + (c.toNat - 48)) 0

/-- The most digits that an integer may have. -/
def maxIntegerDigits : Nat := 4300

/-- The code points of the zeros that the other digits of a script follow in order. -/
def zeros : List Nat := [
    0x30, 0x660, 0x6F0, 0x7C0, 0x966, 0x9E6, 0xA66, 0xAE6, 0xB66, 0xBE6, 0xC66, 0xCE6, 0xD66,
    0xDE6, 0xE50, 0xED0, 0xF20, 0x1040, 0x1090, 0x17E0, 0x1810, 0x1946, 0x19D0, 0x1A80, 0x1A90,
    0x1B50, 0x1BB0, 0x1C40, 0x1C50, 0xA620, 0xA8D0, 0xA900, 0xA9D0, 0xA9F0, 0xAA50, 0xABF0, 0xFF10,
    0x104A0, 0x10D30, 0x11066, 0x110F0, 0x11136, 0x111D0, 0x112F0, 0x11450, 0x114D0, 0x11650,
    0x116C0, 0x11730, 0x118E0, 0x11950, 0x11C50, 0x11D50, 0x11DA0, 0x16A60, 0x16AC0, 0x16B50,
    0x1D7CE, 0x1D7D8, 0x1D7E2, 0x1D7EC, 0x1D7F6, 0x1E140, 0x1E2F0, 0x1E950, 0x1FBF0]

/-- The digit in ASCII that a digit of any script stands for. -/
def plainDigit? (c : Char) : Option Char :=
  (zeros.find? fun first => first ≤ c.toNat && c.toNat < first + 10).map fun first =>
    Char.ofNat (48 + (c.toNat - first))

/-- Why a text is no integer. -/
inductive IntegerFault
  | malformed (text : String)
  | tooLong (digits : Nat)
deriving DecidableEq, Repr

/-- The most characters of a text that are shown in quotes. -/
def maxShown : Nat := 200

def IntegerFault.message : IntegerFault → String
  | malformed text =>
    "invalid literal for int() with base 10: " ++
      String.ofList ((Text.quoted text).toList.take maxShown)
  | tooLong digits =>
    "Exceeds the limit (" ++ toString maxIntegerDigits ++
      " digits) for integer string conversion: value has " ++ toString digits ++
      " digits; use sys.set_int_max_str_digits() to increase the limit"

/-- A character as it counts in a number: blanks and digits beyond ASCII as those of ASCII. -/
def plainForm (c : Char) : Char :=
  if c.toNat < 0x7F then c
  else if Text.isBlank c then ' '
  else (plainDigit? c).getD c

/-- The blanks around a number in ASCII. -/
def isOuterBlank (c : Char) : Bool := c = ' ' || (0x09 ≤ c.toNat && c.toNat ≤ 0x0D)

/-- Whether underscores stand between digits only, one at a time. -/
def hasLooseUnderscore (digits : List Char) : Bool :=
  digits.head? = some '_' || digits.getLast? = some '_' ||
    Text.occursIn ['_', '_'] digits

/-- The integer that a text stands for. -/
def readInteger (text : String) : Except IntegerFault Int :=
  let trimmed := Text.trimBy isOuterBlank (text.toList.map plainForm)
  let (negative, unsigned) : Bool × List Char :=
    match trimmed with
    | '-' :: rest => (true, rest)
    | '+' :: rest => (false, rest)
    | rest => (false, rest)
  let isPart (c : Char) := c.isDigit || c = '_'
  let number := unsigned.takeWhile isPart
  let digits := number.filter Char.isDigit
  if digits.isEmpty || hasLooseUnderscore number then .error (.malformed text)
  else if maxIntegerDigits < digits.length then .error (.tooLong digits.length)
  else if !(unsigned.dropWhile isPart).isEmpty then .error (.malformed text)
  else
    let n : Int := digitsValue digits
    .ok (if negative then -n else n)

end Indicator.Number
