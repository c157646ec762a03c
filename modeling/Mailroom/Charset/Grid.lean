import Mailroom.Text.CodePoint

/-!
# Characters in rows of cells

The characters of East Asian standards stand in rows of numbered cells. A pair of octets
tells the row and the cell.

* `Grid`: rows under their numbers, each a string in which a space marks an empty cell;
* `Grid.at?`: the character in a cell.
-/

namespace Mailroom.Charset

/-- Characters in rows of cells. -/
structure Grid where
  /-- The number of the first cell of every row. -/
  firstCell : Nat
  rows : List (Nat × String)

namespace Grid

/-- The character in a cell, if the cell is not empty. -/
def at? (grid : Grid) (row cell : Nat) : Option CodePoint :=
  if cell < grid.firstCell then none
  else
    match (grid.rows.lookup row).bind (·.toList[cell - grid.firstCell]?) with
    | some c => if c = ' ' then none else some (CodePoint.ofChar c)
    | none => none

/-- The character in a cell as a text. -/
def text? (grid : Grid) (row cell : Nat) : Option Text := (grid.at? row cell).map ([·])

/-- A row that the grid does not have is empty. -/
theorem at?_eq_none_of_lookup {grid : Grid} {row : Nat} (missing : grid.rows.lookup row = none)
    (cell : Nat) : grid.at? row cell = none := by
  simp [at?, missing]

end Grid

end Mailroom.Charset
