/-!
# Edit Distance

The number of single-character insertions, deletions and substitutions that turn one text into
another. The distances of the beginnings of one text to those of another form a table, with one row
for each beginning of the first text. Two rows are enough: the next row is filled from the last one,
written over a row that is no longer needed, and then the two change places.
-/

namespace ReviewPipeline.EditDistance

/-- What it costs to put `d` in the place of `c`. -/
def substitution (c d : Char) : Nat :=
  if c = d then 0 else 1

/-- The cell after the `j`-th in the row for a beginning that ends in `c`, where the beginning of
the other text ends in `d`: the least of deleting `c`, inserting `d`, and putting `d` in the place
of `c`. -/
def nextCell (c d : Char) (last row : Array Nat) (j : Nat) : Nat :=
  let deletion := last.getD (j + 1) 0 + 1
  let insertion := row.getD j 0 + 1
  let kept := last.getD j 0 + substitution c d
  min (min deletion insertion) kept

/-- Fill the cells of a row after the `j`-th, one for each character of `b`, from the row before. -/
def fillRow (c : Char) (last : Array Nat) :
    (b : List Char) → (j : Nat) → (row : Array Nat) → Array Nat
  | [], _, row => row
  | d :: b, j, row =>
    fillRow c last b (j + 1) (row.setIfInBounds (j + 1) (nextCell c d last row j))

/-- The last row of the table against `b`, where `last` is its `i`-th row, `a` is what follows the
first `i` characters, and `spare` is a row to write over. -/
def lastRow (b : List Char) : (a : List Char) → (i : Nat) → (last spare : Array Nat) → Array Nat
  | [], _, last, _ => last
  | c :: a, i, last, spare =>
    lastRow b a (i + 1) (fillRow c last b 0 (spare.setIfInBounds 0 (i + 1))) last

/-- The edit distance of two lists of characters. -/
def ofChars (a b : List Char) : Nat :=
  if a.isEmpty then b.length
  else if b.isEmpty then a.length
  else
    let first := Array.range (b.length + 1)
    let spare := Array.replicate (b.length + 1) 0
    (lastRow b a 0 first spare).getD b.length 0

end ReviewPipeline.EditDistance

namespace ReviewPipeline

/-- The edit distance of two texts, counted in characters. -/
def editDistance (a b : String) : Nat :=
  EditDistance.ofChars a.toList b.toList

end ReviewPipeline
