import Indicator.Text.Charset.Pairs
import Indicator.Text.Charset.Table.Big5
import Indicator.Text.Charset.Table.Gb2312
import Indicator.Text.Charset.Table.GbExtended
import Indicator.Text.Charset.Table.Hkscs
import Indicator.Text.Charset.Table.Page

/-!
# Chinese sets

The sets of simplified characters, each of which extends the one before, and those of traditional
characters.
-/

namespace Indicator.Text.Charset

/-! ### Simplified characters -/

def readGb2312 : UInt8 → List UInt8 → Piece Unit := readPair (gb2312.from? 0xA1)

/-- The ideographs that the basic set lacks, in the order of their code points, and those that
follow them in the extended set. -/
def furtherIdeographs : Array Char := gb2312.lacking 0x4E00 20902 ++ gbkCompatible.toList.toArray

/-- The number of a pair among those of further ideographs. -/
def ideographIndex (a b : Nat) : Option Nat :=
  if a < 0x81 then none
  else if a < 0xA1 then (placeIn [(0x40, 0x7E), (0x80, 0xFE)] b).map ((a - 0x81) * 190 + ·)
  else if a < 0xAA then none
  else (placeIn [(0x40, 0x7E), (0x80, 0xA0)] b).map (32 * 190 + (a - 0xAA) * 96 + ·)

/-- The extended set, which shows two signs in another form than the basic one. -/
def gbk? (a b : Nat) : Option Char :=
  if pairCode a b = 0xA1A4 then some '·'
  else if pairCode a b = 0xA1AA then some '—'
  else (gb2312.from? 0xA1 a b).or
    (((ideographIndex a b).bind (furtherIdeographs[·]?)).or (inRuns? gbkSymbols a b))

def readGbk : UInt8 → List UInt8 → Piece Unit := readPair gbk?

/-- The rows for private use: the first octets and the ranges of the second one, with the first
code point of each region. -/
def privateRow? (a b : Nat) : Option Char :=
  let region (first last code : Nat) (ranges : List (Nat × Nat)) (width : Nat) : Option Char :=
    if first ≤ a ∧ a ≤ last then
      (placeIn ranges b).map fun place => charOfCode (code + (a - first) * width + place)
    else none
  ((region 0xAA 0xAF 0xE000 [(0xA1, 0xFE)] 94).or
    (region 0xF8 0xFE 0xE234 [(0xA1, 0xFE)] 94)).or
    (region 0xA1 0xA7 0xE4C6 [(0x40, 0x7E), (0x80, 0xA0)] 96)

/-- The code point of four octets by their number. -/
def fourOctets? (index : Nat) : Option Char :=
  if index < 39420 then
    (gb18030Runs.reverse.find? (·.1 ≤ index)).map fun run => charOfCode (run.2 + (index - run.1))
  else if 189000 ≤ index ∧ index - 189000 < 0x100000 then some (charOfCode (index - 189000 + 0x10000))
  else none

/-- The number of four octets. -/
def fourIndex? (a b c d : UInt8) : Option Nat :=
  if 0x81 ≤ a ∧ a ≤ 0xFE ∧ 0x81 ≤ c ∧ c ≤ 0xFE ∧ 0x30 ≤ d ∧ d ≤ 0x39 then
    some ((((a.toNat - 0x81) * 10 + (b.toNat - 0x30)) * 126 + (c.toNat - 0x81)) * 10 +
      (d.toNat - 0x30))
  else none

/-- The national set of 2000: the extended set, further pairs, and groups of four octets that reach
every code point. -/
def readGb18030 (b : UInt8) (rest : List UInt8) : Piece Unit :=
  match rest with
  | c :: more =>
    if 0x80 ≤ b ∧ 0x30 ≤ c ∧ c ≤ 0x39 then
      match more with
      | d :: e :: _ => .ofChar? 3 () ((fourIndex? b c d e).bind fourOctets?)
      | _ => .cut
    else readPair
      (fun a b => (gbk? a b).or ((inRanges? gb18030Pairs a b).or (privateRow? a b))) b rest
  | [] => readPair gbk? b []

/-! ### Traditional characters -/

/-- The ranges of the second octet of a pair. -/
def big5Ranges : List (Nat × Nat) := [(0x40, 0x7E), (0xA1, 0xFE)]

def big5? (a b : Nat) : Option Char :=
  if a < 0xA1 then none else (placeIn big5Ranges b).bind (big5Grid.cell? (a - 0xA1))

def readBig5 : UInt8 → List UInt8 → Piece Unit := readPair big5?

def readPage950 : UInt8 → List UInt8 → Piece Unit :=
  readPair fun a b => (inRuns? page950 a b).or (big5? a b)

/-- A capital or a small letter with two marks, which have no character of their own. -/
def hongKongText? (a b : Nat) : Option (List Char) :=
  [(0x8862, ['Ê', '\u0304']), (0x8864, ['Ê', '\u030C']), (0x88A3, ['ê', '\u0304']),
    (0x88A5, ['ê', '\u030C'])].lookup (pairCode a b)

/-- The pairs of the basic set that the supplement does not take over. -/
def hongKongOmits (a b : Nat) : Bool := a = 0xC6 && 0xA1 ≤ b

/-- The basic set with the Hong Kong supplement. -/
def readHkscs (b : UInt8) (rest : List UInt8) : Piece Unit :=
  if b < 0x80 then .ofCode b.toNat 0
  else match rest with
    | [] => .cut
    | c :: _ =>
      let (first, second) := (b.toNat, c.toNat)
      let added := if first < 0x87 then none
        else (placeIn big5Ranges second).bind (hkscs.cell? (first - 0x87))
      let basic := if hongKongOmits first second then none else big5? first second
      .ofText? 1 () (((added.or basic).map fun found => [found]).or (hongKongText? first second))

end Indicator.Text.Charset
