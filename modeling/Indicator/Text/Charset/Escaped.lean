import Indicator.Text.Charset.Piece
import Indicator.Text.Hex

/-!
# Escaped characters

The Latin set in which a backslash starts an escape: a letter for a control character, an octal
number, or a hexadecimal number after `x`, `u` or `U`. The raw form knows only the last two. An
escape that is not complete is one mark, and what ended it is read afresh.
-/

namespace Indicator.Text.Charset

/-- The value of a hexadecimal digit. -/
def hexOctet? (b : UInt8) : Option Nat := hexValue? (Char.ofNat b.toNat)

/-- The value of digits. -/
def numberOf (radix : Nat) (digits : List Nat) : Nat := digits.foldl (fun n d => radix * n + d) 0

/-- The character of `count` hexadecimal digits after a backslash and a letter. -/
def readHexEscape (count : Nat) (rest : List UInt8) : Piece Unit :=
  let digits := (rest.take count).map hexOctet? |>.takeWhile Option.isSome |>.filterMap id
  let code := numberOf 16 digits
  if digits.length = count ∧ code < 0x110000 then .chars [charOfCode code] (count + 1) ()
  else .bad (digits.length + 1) ()

/-- The character of up to three octal digits after a backslash. -/
def readOctalEscape (octets : List UInt8) : Piece Unit :=
  let digits := (octets.take 3).takeWhile fun b => 0x30 ≤ b && b ≤ 0x37
  .chars [charOfCode (numberOf 8 (digits.map fun b => b.toNat - 0x30))] digits.length ()

/-- The character that a letter after a backslash stands for. -/
def controlEscape? (b : UInt8) : Option (List Char) :=
  [('\n', []), ('\\', ['\\']), ('\'', ['\'']), ('"', ['"']), ('b', ['\x08']), ('f', ['\x0C']),
    ('t', ['\t']), ('n', ['\n']), ('r', ['\r']), ('v', ['\x0B']), ('a', ['\x07'])].lookup
      (Char.ofNat b.toNat)

/-- A name between braces stands for nothing. -/
def readNameEscape (rest : List UInt8) : Piece Unit :=
  match rest with
  | 0x7B :: more =>
    let name := more.takeWhile (· ≠ 0x7D)
    if name.length = more.length then .bad (rest.length + 1) ()
    else if name.isEmpty then .bad 2 ()
    else .bad (name.length + 3) ()
  | _ => .bad 1 ()

/-- How many hexadecimal digits follow a letter after a backslash. -/
def hexDigitsAfter? (b : UInt8) : Option Nat :=
  if b = 0x75 then some 4 else if b = 0x55 then some 8 else none

def readEscaped (b : UInt8) (rest : List UInt8) : Piece Unit :=
  if b ≠ 0x5C then .ofCode b.toNat 0
  else match rest with
    | [] => .bad 0 ()
    | c :: more =>
      match controlEscape? c, (if c = 0x78 then some 2 else hexDigitsAfter? c) with
      | some text, _ => .chars text 1 ()
      | none, some count => readHexEscape count more
      | none, none =>
        if 0x30 ≤ c ∧ c ≤ 0x37 then readOctalEscape rest
        else if c = 0x4E then readNameEscape more
        else .chars ['\\', charOfCode c.toNat] 1 ()

def readRawEscaped (b : UInt8) (rest : List UInt8) : Piece Unit :=
  match rest with
  | c :: more =>
    if b ≠ 0x5C then .ofCode b.toNat 0
    else match hexDigitsAfter? c with
      | some count => readHexEscape count more
      | none => .chars ['\\', charOfCode c.toNat] 1 ()
  | [] => .ofCode b.toNat 0

end Indicator.Text.Charset
