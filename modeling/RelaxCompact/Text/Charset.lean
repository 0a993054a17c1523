/-!
Sets of characters that are numbered by a row and a cell in it.
-/

namespace RelaxCompact

/-- A set of characters. Each row holds its characters from the first cell on; a blank stands in a
cell that has none. -/
structure Charset where
  firstRow : Nat
  firstCell : Nat
  rows : Array String

namespace Charset

/-- The character in a cell. -/
def char? (s : Charset) (row cell : Nat) : Option Char :=
  if row < s.firstRow ∨ cell < s.firstCell then none
  else
    let cells := (s.rows[row - s.firstRow]?).getD ""
    (cells.toList[cell - s.firstCell]?).filter (· ≠ ' ')

/-- The character with a code, in lists that each number their characters from a code on. -/
def listed? (lists : List (Nat × String)) (code : Nat) : Option Char :=
  lists.findSome? fun (first, chars) =>
    if code < first then none else chars.toList[code - first]?

end Charset

end RelaxCompact
