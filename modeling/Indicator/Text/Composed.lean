import Indicator.Text.Blank
import Indicator.Text.CombiningTable
import Indicator.Text.Surrogate

/-!
# Composed text

Normalization Form C: each character stands for as much as it can, and the marks after a character
are in order. A text is taken apart, its marks are put in order, and it is put together again; it
is composed if nothing has changed and no character of it is one that stands for others only.
-/

namespace Indicator.Text

/-- The class of a mark, zero for a character that is none. -/
def markClass (c : Char) : Nat :=
  ((markClasses.find? fun entry => within entry.2 c).map Prod.fst).getD 0

/-- The character at the place where another one stands in a text. -/
def opposite? (c : Char) (here there : String) : Option Char :=
  (here.toList.zip there.toList).lookup c

/-- The syllable of two Korean letters, or of a syllable and a letter. -/
def syllable? (first second : Nat) : Option Char :=
  if 0x1100 ≤ first ∧ first ≤ 0x1112 ∧ 0x1161 ≤ second ∧ second ≤ 0x1175 then
    some (charOfCode (0xAC00 + ((first - 0x1100) * 21 + (second - 0x1161)) * 28))
  else if 0xAC00 ≤ first ∧ first < 0xD7A4 ∧ (first - 0xAC00) % 28 = 0 ∧ 0x11A8 ≤ second ∧
      second ≤ 0x11C2 then
    some (charOfCode (first + (second - 0x11A7)))
  else none

/-- The character that stands for a pair. -/
def composition? (first second : Char) : Option Char :=
  (syllable? first.toNat second.toNat).or
    ((composedPairs.lookup second.toNat).bind fun entry => opposite? first entry.1 entry.2)

/-- The pair that a character stands for, syllables apart. -/
def decomposition? (c : Char) : Option (Char × Char) :=
  composedPairs.findSome? fun entry =>
    (opposite? c entry.2.2 entry.2.1).map fun first => (first, charOfCode entry.1)

/-- How often a character stands for a pair whose first character does so again, at most. -/
def maxDepth : Nat := 4

/-- A character without the marks that it stands for, and those marks. -/
def decompose : Nat → Char → List Char
  | 0, c => [c]
  | depth + 1, c =>
    match decomposition? c with
    | none => [c]
    | some (first, second) => decompose depth first ++ [second]

/-- Puts a character before ordered text, after the marks of lower classes at its start if it is a
mark itself. -/
def sinkMark (c : Char) : List Char → List Char
  | [] => [c]
  | next :: rest =>
    if 0 < markClass next ∧ markClass next < markClass c then next :: sinkMark c rest
    else c :: next :: rest

/-- Ordered text put together, where `marks`, in reverse, follow `base` by now. A mark belongs to
`base` unless one of its own or a higher class stands between them. -/
def composeAfter (base : Char) (marks : List Char) : List Char → List Char
  | [] => base :: marks.reverse
  | c :: rest =>
    let reaches := (marks.head?.map fun last => decide (markClass last < markClass c)).getD true
    match if reaches then composition? base c else none with
    | some composed => composeAfter composed marks rest
    | none =>
      if markClass c = 0 then base :: marks.reverse ++ composeAfter c [] rest
      else composeAfter base (c :: marks) rest

/-- Normalization Form C of a text without characters that stand for others only. -/
def composeText (text : List Char) : List Char :=
  match (text.flatMap (decompose maxDepth)).foldr sinkMark [] with
  | [] => []
  | c :: rest => composeAfter c [] rest

/-- Whether a text is in Normalization Form C. -/
def isComposed (text : List Char) : Bool :=
  !text.any (within replacedRanges) && composeText text = text

end Indicator.Text
