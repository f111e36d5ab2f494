/-!
# Lone surrogates

A text from outside may hold one half of a surrogate pair by itself, which is no character. It is
kept as a character of plane 13, where Unicode assigns none: the text has one element for it, it is
shown by its number, and it cannot be written in UTF-8.

The 2048 characters that stand for surrogates, U+DD800 to U+DDFFF, cannot be told from them any
more: a text that holds one of these unassigned characters itself is taken for a broken one. What is
said of whole texts is therefore not said of such a text.
-/

namespace Indicator.Text

/-- The character that stands for what cannot be read. -/
def replacement : Char := '\uFFFD'

def isHighSurrogate (n : Nat) : Bool := 0xD800 ≤ n && n < 0xDC00

def isLowSurrogate (n : Nat) : Bool := 0xDC00 ≤ n && n < 0xE000

def isSurrogate (n : Nat) : Bool := isHighSurrogate n || isLowSurrogate n

/-- The code point of a pair of surrogates. -/
def joinSurrogates (high low : Nat) : Nat := 0x10000 + 1024 * (high - 0xD800) + (low - 0xDC00)

/-- How far the stand-in of a surrogate lies above it. -/
def surrogateShift : Nat := 0xD0000

/-- The character of a code point, a stand-in for a surrogate, and `replacement` for a number that
is no code point. -/
def charOfCode (code : Nat) : Char :=
  let code := if isSurrogate code then code + surrogateShift else code
  if h : code.isValidChar then Char.ofNatAux code h else replacement

/-- The surrogate that a character stands for. -/
def surrogate? (c : Char) : Option Nat :=
  let code := c.toNat - surrogateShift
  if isSurrogate code then some code else none

/-- A character that stands for itself. -/
def isScalar (c : Char) : Bool := (surrogate? c).isNone

/-- Whether a text is free of lone surrogates, and of the characters that stand for them. -/
def isWhole (text : String) : Bool := text.toList.all isScalar

/-- The characters of sixteen-bit units and of larger code points, pairs of surrogates joined. -/
def charsOfUnits : List Nat → List Char
  | [] => []
  | [unit] => [charOfCode unit]
  | unit :: next :: rest =>
    if isHighSurrogate unit && isLowSurrogate next then
      charOfCode (joinSurrogates unit next) :: charsOfUnits rest
    else charOfCode unit :: charsOfUnits (next :: rest)

end Indicator.Text
