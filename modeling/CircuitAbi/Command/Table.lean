import CircuitAbi.Command.Layout
import CircuitAbi.Markup.Render

/-!
# Tables

A table with a title, a heading over each column and a rule below the headings. The cells are
marked-up text, rendered column by column. A column is as wide as its widest cell asks, and a row as
high as its highest cell.
-/

set_option autoImplicit false

namespace CircuitAbi.Command

/-- A column: its heading, whether its cells stand to the right, and the cells. -/
structure Column where
  heading : Text
  right : Bool
  cells : List Text

namespace Column

/-- The column with its cells as they are shown. -/
def rendered (c : Column) : Except Markup.Fault Column := do
  return { c with cells := ← c.cells.mapM Markup.render }

/-- The greatest width that a cell asks for. -/
def width (c : Column) : Nat := ((c.heading :: c.cells).map widthOf).foldl max 0

end Column

/-- The rows of columns that each have `n` cells. -/
def rowsOf (n : Nat) (columns : List (List Text)) : List (List Text) :=
  columns.foldr (List.zipWith List.cons) (List.replicate n [])

/-- The lines of a row, each cell with a space on either side and the columns a space apart. -/
def rowLines (columns : List (Column × Nat)) (row : List Text) : List Text :=
  let parts := (columns.zip row).map fun ((c, width), t) =>
    ((fittedLines width t).map (aligned c.right width), width)
  let height := (parts.map (·.1.length)).foldl max 0
  let filled := parts.map fun (lines, width) =>
    lines ++ List.replicate (height - lines.length) (spaces width)
  (rowsOf height filled).map fun line => "  " ++ Text.join "   " line ++ "  "

/-- A table whose columns each have `n` cells, each line with a newline at its end. -/
def table (title : Text) (n : Nat) (columns : List Column) : Except Markup.Fault Text := do
  let columns ← columns.mapM Column.rendered
  let sized := columns.map fun c => (c, c.width)
  let total := sized.foldr (fun c rest => c.2 + 3 + rest) 1
  let blank := spaces total
  let rule := " " ++ List.replicate (total - 2) (0x2500 : CodePoint) ++ " "
  let rows := rowsOf n (columns.map Column.cells)
  let lines := [centred total title, blank] ++ rowLines sized (columns.map Column.heading) ++
    [rule] ++ rows.flatMap (rowLines sized) ++ [blank]
  return lines.flatMap (· ++ [10])

end CircuitAbi.Command
