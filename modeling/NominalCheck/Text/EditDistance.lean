/-!
# Edit distance with transpositions

`editDistance a b` is the least number of edits that turn the text `a` into the text `b`, where an
edit inserts, deletes or replaces one character or swaps two neighbours. Characters may be edited
**between** the two that are swapped, so `"ca"` and `"abc"` are two edits apart: swap, then insert.

## Method

The distance of two texts is the last cell of a table with a row for every prefix of `a` and a
column for every prefix of `b`. A cell looks at its three neighbours for the one-character edits,
and for the swap at the cell that stands before the last earlier occurrences of the two characters
in question. That cell may lie in any earlier row, so all rows are kept. Where the two characters
occurred last is carried along: the row with each column, and the column while a row is filled.
-/

namespace NominalCheck

namespace EditDistance

/-- A character of the second text. -/
structure Column where
  /-- The character. -/
  char : Char
  /-- The position, counted from one, where the part of the first text that has been read has the
  character last. -/
  lastRow : Option Nat
deriving DecidableEq, Repr, Inhabited

/-- The column after the character `x` of the first text, at position `i`, has been read. -/
def Column.read (i : Nat) (x : Char) (column : Column) : Column :=
  if column.char = x then { column with lastRow := some i } else column

/-- The cell in row `i` and column `j` of a table given by its rows. -/
def cellAt (rows : Array (Array Nat)) (i j : Nat) : Nat := (rows.getD i #[]).getD j 0

/-- The cost of reaching the cell in row `i + 1` and column `j + 1` by a swap: go to the cell before
the two characters' last earlier occurrences, then delete and insert what lies between. There is no
such way if one of them has not occurred. -/
def swapCost? (rows : Array (Array Nat)) (i j : Nat) :
    (lastRow lastColumn : Option Nat) → Option Nat
  | some k, some l => some (cellAt rows (k - 1) (l - 1) + (i - k) + 1 + (j - l))
  | _, _ => none

/-- The cell in row `i + 1` and column `j + 1`, given the rows above it and the cell to its left.
The characters there are `x` and that of `column`, and `x` stands in `lastColumn` last. -/
def cell (rows : Array (Array Nat)) (i j left : Nat) (x : Char) (column : Column)
    (lastColumn : Option Nat) : Nat :=
  let replaced := cellAt rows i j + (if x = column.char then 0 else 1)
  let edited := min replaced (min (cellAt rows i (j + 1) + 1) (left + 1))
  match swapCost? rows i j column.lastRow lastColumn with
  | some swapped => min edited swapped
  | none => edited

/-- Completes row `i + 1`, that of the character `x`, of which the cells up to column `j` are in
`row`. The last of them is `left`. -/
def fillRow (rows : Array (Array Nat)) (i : Nat) (x : Char) :
    (row : Array Nat) → (j left : Nat) → (lastColumn : Option Nat) → List Column → Array Nat
  | row, _, _, _, [] => row
  | row, j, left, lastColumn, column :: columns =>
    let value := cell rows i j left x column lastColumn
    let lastColumn := if column.char = x then some (j + 1) else lastColumn
    fillRow rows i x (row.push value) (j + 1) value lastColumn columns

/-- Completes the table, of which the rows up to row `i` are in `rows`. -/
def fillRows : (rows : Array (Array Nat)) → (i : Nat) → List Column → List Char → Array (Array Nat)
  | rows, _, _, [] => rows
  | rows, i, columns, x :: rest =>
    let row := fillRow rows i x #[i + 1] 0 (i + 1) none columns
    fillRows (rows.push row) (i + 1) (columns.map (Column.read (i + 1) x)) rest

end EditDistance

open EditDistance in
/-- The least number of insertions, deletions, replacements and swaps of neighbours that turn `a`
into `b`, counted in characters. -/
def editDistance (a b : String) : Nat :=
  let columns : List Column := b.toList.map (⟨·, none⟩)
  let firstRow := Array.range (columns.length + 1)
  cellAt (fillRows #[firstRow] 0 columns a.toList) a.toList.length columns.length

end NominalCheck
