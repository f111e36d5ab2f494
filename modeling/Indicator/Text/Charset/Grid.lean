/-!
# Grids

A set of characters laid out in rows of equal width, as the national standards of East Asia do it.
A cell holds a character or none. A grid is written as its rows, each with its number and its text,
in which a space stands for an empty cell; what is not written is empty.
-/

namespace Indicator.Text.Charset

/-- A grid by the width of its rows and its cells, row after row. -/
structure Grid where
  width : Nat
  cells : Array Char

namespace Grid

/-- The mark of an empty cell. -/
def empty : Char := ' '

/-- Writes a text into the cells from an index on. -/
def fill (cells : Array Char) (index : Nat) : List Char → Array Char
  | [] => cells
  | c :: rest => fill (cells.setIfInBounds index c) (index + 1) rest

/-- The grid of `count` rows that some rows with their numbers make. -/
def ofRows (width count : Nat) (rows : List (Nat × String)) : Grid :=
  ⟨width, rows.foldl (fun cells row => fill cells (width * row.1) row.2.toList)
    (Array.replicate (width * count) empty)⟩

/-- The character of a cell. -/
def cell? (grid : Grid) (row column : Nat) : Option Char :=
  if column < grid.width then (grid.cells[grid.width * row + column]?).filter (· ≠ empty) else none

/-- The character of the cell whose row and column are counted from `origin`. -/
def from? (grid : Grid) (origin row column : Nat) : Option Char :=
  if origin ≤ row ∧ origin ≤ column then grid.cell? (row - origin) (column - origin) else none

end Grid

end Indicator.Text.Charset
