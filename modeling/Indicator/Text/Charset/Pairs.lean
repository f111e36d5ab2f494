import Indicator.Text.Charset.Grid
import Indicator.Text.Charset.Piece

/-!
# Pairs of octets

What the sets of East Asia have in common: an octet below 80 is ASCII, another one starts a pair.
A set that extends another lists runs of pairs, or gives its free cells, in order, to the characters
that the other set lacks.
-/

namespace Indicator.Text.Charset

/-- A pair as one number. -/
def pairCode (a b : Nat) : Nat := 256 * a + b

/-- The character of a pair in runs that are written out. -/
def inRuns? (runs : List (Nat × String)) (a b : Nat) : Option Char :=
  runs.findSome? fun run =>
    if run.1 ≤ pairCode a b then run.2.toList[pairCode a b - run.1]? else none

/-- The character of a pair in runs of code points. -/
def inRanges? (ranges : List (Nat × Nat × Nat)) (a b : Nat) : Option Char :=
  (ranges.find? fun range => range.1 ≤ pairCode a b && pairCode a b ≤ range.2.1).map fun range =>
    charOfCode (range.2.2 + (pairCode a b - range.1))

/-- The characters from a code point on that a grid lacks, in order. -/
def Grid.lacking (grid : Grid) (first count : Nat) : Array Char :=
  let held := grid.cells.foldl
    (fun flags c =>
      if first ≤ c.toNat then flags.setIfInBounds (c.toNat - first) true else flags)
    (Array.replicate count false)
  ((codesOf count).filter fun i => !held.getD i false).map fun i => charOfCode (first + i)
where
  codesOf (count : Nat) : Array Nat := Array.range count

/-- The place of a second octet among the ranges that it may lie in. -/
def placeIn (ranges : List (Nat × Nat)) (b : Nat) : Option Nat :=
  match ranges with
  | [] => none
  | (low, high) :: rest =>
    if low ≤ b ∧ b ≤ high then some (b - low) else (placeIn rest b).map (· + (high + 1 - low))

/-- The piece that starts with an octet, where `read` says what a pair stands for. -/
def readPair (read : Nat → Nat → Option Char) (b : UInt8) (rest : List UInt8) : Piece Unit :=
  if b < 0x80 then .ofCode b.toNat 0
  else match rest with
    | [] => .cut
    | c :: _ => .ofChar? 1 () (read b.toNat c.toNat)

end Indicator.Text.Charset
