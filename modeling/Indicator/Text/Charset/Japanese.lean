import Indicator.Text.Charset.Pairs
import Indicator.Text.Charset.Table.Jis0208
import Indicator.Text.Charset.Table.Jis0212
import Indicator.Text.Charset.Table.Jis0213
import Indicator.Text.Charset.Table.Page

/-!
# Japanese sets

The basic, the supplementary and the extended set, in pairs of octets from A1 on or in shifted form,
which leaves room for the narrow syllables as octets of their own.
-/

namespace Indicator.Text.Charset

/-- The narrow syllable of an octet. -/
def narrow? (b : UInt8) : Option Char :=
  if 0xA1 ≤ b ∧ b ≤ 0xDF then some (charOfCode (0xFEC0 + b.toNat)) else none

/-! ### The extended set -/

/-- Which of its two editions a text is in. -/
inductive Edition
  | first
  | second
deriving DecidableEq

/-- The cells that only the second edition fills. -/
def laterCells : List (Nat × Nat) :=
  [(13, 0), (14, 93), (46, 51), (46, 93), (83, 6), (93, 89), (93, 90), (93, 91), (93, 92), (93, 93)]

/-- The cells of characters that need two code points. -/
def pairedCells : List ((Nat × Nat) × List Char) :=
  [((3, 86), ['か', '\u309A']), ((3, 87), ['き', '\u309A']), ((3, 88), ['く', '\u309A']),
    ((3, 89), ['け', '\u309A']), ((3, 90), ['こ', '\u309A']), ((4, 86), ['カ', '\u309A']),
    ((4, 87), ['キ', '\u309A']), ((4, 88), ['ク', '\u309A']), ((4, 89), ['ケ', '\u309A']),
    ((4, 90), ['コ', '\u309A']), ((4, 91), ['セ', '\u309A']), ((4, 92), ['ツ', '\u309A']),
    ((4, 93), ['ト', '\u309A']), ((5, 87), ['ㇷ', '\u309A']), ((10, 35), ['æ', '\u0300']),
    ((10, 39), ['ɔ', '\u0300']), ((10, 40), ['ɔ', '\u0301']), ((10, 41), ['ʌ', '\u0300']),
    ((10, 42), ['ʌ', '\u0301']), ((10, 43), ['ə', '\u0300']), ((10, 44), ['ə', '\u0301']),
    ((10, 45), ['ɚ', '\u0300']), ((10, 46), ['ɚ', '\u0301']), ((10, 68), ['˩', '˥']),
    ((10, 69), ['˥', '˩'])]

/-- A cell of the first plane. One that was filled later is a mark in the first edition. -/
def firstPlane? (edition : Edition) (row column : Nat) : Option (List Char) :=
  if edition = .first && laterCells.contains (row, column) then some [replacement]
  else (((jis0208.cell? row column).or (jis0213First.cell? row column)).map fun c => [c]).or
    (pairedCells.lookup (row, column))

/-- A cell of the second plane, one of which the editions read differently. -/
def secondPlane? (edition : Edition) (row column : Nat) : Option Char :=
  if edition = .first ∧ row = 92 ∧ column = 26 then some '鬝'
  else jis0213Second.cell? row column

/-! ### Octets from A1 on -/

/-- An octet counted from A1. -/
def fromA1 (b : UInt8) : Option Nat := if 0xA1 ≤ b then some (b.toNat - 0xA1) else none

/-- A pair that names a cell. -/
def cellOf? {α : Type} (cell? : Nat → Nat → Option α) (a b : UInt8) : Option α := do
  cell? (← fromA1 a) (← fromA1 b)

/-- Pairs for the first set, 8E before a narrow syllable and 8F before a pair of the second set. -/
def readEucJapanese (firstSet? : Nat → Nat → Option (List Char)) (secondSet? : Nat → Nat → Option Char)
    (b : UInt8) (rest : List UInt8) : Piece Unit :=
  if b < 0x80 then .ofCode b.toNat 0
  else match rest with
    | [] => .cut
    | c :: more =>
      if b = 0x8E then .ofChar? 1 () (narrow? c)
      else if b = 0x8F then
        match more with
        | [] => .cut
        | d :: _ => .ofChar? 2 () (cellOf? secondSet? c d)
      else .ofText? 1 () (cellOf? firstSet? b c)

def readEucJp : UInt8 → List UInt8 → Piece Unit :=
  readEucJapanese (fun row column => (jis0208.cell? row column).map fun c => [c]) jis0212.cell?

def readEucJisX0213 (edition : Edition) : UInt8 → List UInt8 → Piece Unit :=
  readEucJapanese (firstPlane? edition) fun row column =>
    (secondPlane? edition row column).or (jis0212.cell? row column)

/-! ### Shifted form -/

/-- The row and the column of a pair in shifted form: two rows to a first octet. -/
def shiftedCell? (a b : UInt8) : Option (Nat × Nat) := do
  let place ← placeIn [(0x40, 0x7E), (0x80, 0xFC)] b.toNat
  let pairOfRows ← placeIn [(0x81, 0x9F), (0xE0, 0xFC)] a.toNat
  return (2 * pairOfRows + place / 94, place % 94)

/-- The piece at an octet, where `single?` and `pair?` say what an octet by itself and a pair stand
for. -/
def readShifted (single? : UInt8 → Option Char) (pair? : UInt8 → UInt8 → Option (List Char))
    (b : UInt8) (rest : List UInt8) : Piece Unit :=
  match single? b with
  | some c => .one c ()
  | none =>
    match rest with
    | [] => .cut
    | c :: _ => .ofText? 1 () (pair? b c)

/-- ASCII and the narrow syllables. -/
def asciiOrNarrow? (b : UInt8) : Option Char :=
  if b < 0x80 then some (charOfCode b.toNat) else narrow? b

def readShiftJis : UInt8 → List UInt8 → Piece Unit :=
  readShifted asciiOrNarrow? fun a b => do
    let (row, column) ← shiftedCell? a b
    return [← jis0208.cell? row column]

/-- The octets that the Japanese page reads by themselves. -/
def page932Single? (b : UInt8) : Option Char :=
  if b = 0x80 then some '\x80'
  else if b = 0xA0 then some '\uF8F0'
  else if 0xFD ≤ b then some (charOfCode (0xF8F1 + (b.toNat - 0xFD)))
  else asciiOrNarrow? b

/-- The Japanese page, with rows for private use from F0 on. -/
def readPage932 : UInt8 → List UInt8 → Piece Unit :=
  readShifted page932Single? fun a b =>
    let found? : Option Char := do
      let (row, column) ← shiftedCell? a b
      if 0xF0 ≤ a ∧ a ≤ 0xF9 then return charOfCode (0xE000 + (row - 94) * 94 + column)
      else jis0208.cell? row column
    ((inRuns? page932 a.toNat b.toNat).or found?).map fun c => [c]

/-- The row of the second plane that each row after the first plane holds. -/
def secondPlaneRows : List Nat :=
  [0, 7, 2, 3, 4, 11, 12, 13, 14] ++ (List.range 17).map (· + 77)

def readShiftJisX0213 (edition : Edition) : UInt8 → List UInt8 → Piece Unit :=
  let single? (b : UInt8) :=
    if b = 0x5C then some '¥' else if b = 0x7E then some '‾' else asciiOrNarrow? b
  readShifted single? fun a b => do
    let (row, column) ← shiftedCell? a b
    if (row, column) = (0, 31) then return ['\\']
    else if (row, column) = (1, 17) then return ['~']
    else if row < 94 then firstPlane? edition row column
    else return [← secondPlane? edition (← secondPlaneRows[row - 94]?) column]

end Indicator.Text.Charset
