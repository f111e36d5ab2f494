import Indicator.Text.Charset.Pairs
import Indicator.Text.Charset.Table.Ks1001

/-!
# Korean sets

Three ways to write the Korean characters: the national set by itself, in which a syllable that it
lacks is spelled by its letters; the set with all further syllables in its free pairs; and the
combining set, in which a pair holds the three letters of a syllable.
-/

namespace Indicator.Text.Charset

/-- The syllable of an initial, a vowel and a final, each by its number. -/
def syllable (initial vowel final : Nat) : Char :=
  charOfCode (0xAC00 + (initial * 21 + vowel) * 28 + final)

/-! ### The national set -/

/-- The numbers of the initials among the letters from U+3131 on, 99 for a letter that is none. -/
def initialNumbers : List Nat :=
  [0, 1, 99, 2, 99, 99, 3, 4, 5, 99, 99, 99, 99, 99, 99, 99, 6, 7, 8, 99, 9, 10, 11, 12, 13, 14, 15,
    16, 17, 18]

/-- The numbers of the finals among the same letters. -/
def finalNumbers : List Nat :=
  [1, 2, 3, 4, 5, 6, 7, 99, 8, 9, 10, 11, 12, 13, 14, 15, 16, 17, 99, 18, 19, 20, 21, 22, 99, 23, 24,
    25, 26, 27]

/-- The number of a letter in a list, if it has one. -/
def numberIn? (numbers : List Nat) (b : UInt8) : Option Nat :=
  if b < 0xA1 then none else (numbers[b.toNat - 0xA1]?).filter (· ≠ 99)

/-- The octets of the sign that no letter stands. -/
def letterRow : UInt8 := 0xA4
def noLetter : UInt8 := 0xD4

/-- A syllable spelled by its letters, after the first two octets. -/
def spelled? (a b c d e f : UInt8) : Option Char := do
  if a = letterRow ∧ c = letterRow ∧ e = letterRow then
    let initial ← numberIn? initialNumbers b
    let final ← if f = noLetter then some 0 else numberIn? finalNumbers f
    if 0xBF ≤ d ∧ d ≤ 0xD3 then return syllable initial (d.toNat - 0xBF) final else none
  else none

/-- KS X 1001 in pairs of octets from A1 on. -/
def readEucKr (b : UInt8) (rest : List UInt8) : Piece Unit :=
  if b = letterRow ∧ rest.head? = some noLetter then
    match rest with
    | _ :: a :: b :: c :: d :: e :: f :: _ => .ofChar? 7 () (spelled? a b c d e f)
    | _ => .cut
  else readPair (ks1001.from? 0xA1) b rest

/-! ### All syllables -/

/-- The syllables that the national set lacks. -/
def furtherSyllables : Array Char := ks1001.lacking 0xAC00 11172

/-- The ranges of the second octet of a further syllable, the last one cut short where the rows of
the national set begin. -/
def syllableRanges (last : Nat) : List (Nat × Nat) := [(0x41, 0x5A), (0x61, 0x7A), (0x81, last)]

/-- The number of a pair among those of further syllables. -/
def syllableIndex (a b : Nat) : Option Nat :=
  if a < 0x81 then none
  else if a < 0xA1 then (placeIn (syllableRanges 0xFE) b).map ((a - 0x81) * 178 + ·)
  else (placeIn (syllableRanges 0xA0) b).map (32 * 178 + (a - 0xA1) * 84 + ·)

/-- The national set with all syllables. -/
def readUnified : UInt8 → List UInt8 → Piece Unit :=
  readPair fun a b => (ks1001.from? 0xA1 a b).or ((syllableIndex a b).bind (furtherSyllables[·]?))

/-! ### Combining letters -/

/-- The numbers that five bits stand for, from the second value on: 98 where no letter stands, 99
for no number. -/
def combiningInitials : List Nat :=
  [98, 0, 1, 2, 3, 4, 5, 6, 7, 8, 9, 10, 11, 12, 13, 14, 15, 16, 17, 18]

def combiningVowels : List Nat :=
  [99, 98, 0, 1, 2, 3, 4, 99, 99, 5, 6, 7, 8, 9, 10, 99, 99, 11, 12, 13, 14, 15, 16, 99, 99, 17, 18,
    19, 20]

def combiningFinals : List Nat :=
  [98, 1, 2, 3, 4, 5, 6, 7, 8, 9, 10, 11, 12, 13, 14, 15, 16, 99, 17, 18, 19, 20, 21, 22, 23, 24, 25,
    26, 27]

/-- The letter that five bits stand for: `none` for no letter. -/
def letterOf (numbers : List Nat) (bits : Nat) : Option (Option Nat) :=
  if bits = 0 then none
  else match numbers[bits - 1]? with
    | none | some 99 => none
    | some 98 => some none
    | some n => some (some n)

/-- The letter of U+3131 and following that has a number in a list. -/
def letterAlone (numbers : List Nat) (n : Nat) : Char := charOfCode (0x3131 + numbers.idxOf n)

/-- The character of three letters, of which a syllable needs the first two. -/
def combine? : Option Nat → Option Nat → Option Nat → Option Char
  | none, none, none => some '\u3000'
  | none, none, some final => some (letterAlone finalNumbers final)
  | none, some vowel, none => some (charOfCode (0x314F + vowel))
  | some initial, none, none => some (letterAlone initialNumbers initial)
  | some initial, some vowel, final => some (syllable initial vowel (final.getD 0))
  | _, _, _ => none

/-- The rows of the national set without its letters and syllables, two to a first octet. -/
def combiningRow? (a b : Nat) : Option Char := do
  let place ← placeIn [(0x31, 0x7E), (0x91, 0xFE)] b
  if a = 0xDF ∨ 0xF9 < a ∨ (a = 0xDA ∧ 0xA1 ≤ b ∧ b ≤ 0xD3) then none
  else if a < 0xD9 then none
  else
    let row := if a < 0xE0 then 2 * (a - 0xD9) else 2 * (a - 0xE0) + 41
    ks1001.cell? (row + place / 94) (place % 94)

def readJohab : UInt8 → List UInt8 → Piece Unit :=
  readPair fun a b =>
    if a < 0xD8 then do
      let initial ← letterOf combiningInitials (a / 4 % 32)
      let vowel ← letterOf combiningVowels (a % 4 * 8 + b / 32)
      let final ← letterOf combiningFinals (b % 32)
      combine? initial vowel final
    else combiningRow? a b

end Indicator.Text.Charset
