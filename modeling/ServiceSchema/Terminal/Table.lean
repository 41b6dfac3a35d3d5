/-
Tables on a terminal.

The cells of a column are as wide as the widest of them. A table of names and values
has a frame; a table with a header has none, and its columns stand apart. Tables are
indented by two.
-/
import ServiceSchema.Terminal.Line

set_option autoImplicit false

namespace ServiceSchema.Terminal

/-- What precedes every line of a table. -/
def indent : String := "  "

/-- The lines of a cell. -/
abbrev Cell := List (List Char)

/-- The width of a cell. -/
def Cell.width (cell : Cell) : Nat := (cell.map Text.width).foldl max 0

/-- The width of the column at a position. -/
def columnWidth (rows : List (List Cell)) (position : Nat) : Nat :=
  (rows.map fun row => (row.getD position []).width).foldl max 0

/-- The lines of a row, as lists of padded cells. -/
def rowLines (widths : List Nat) (row : List Cell) : List (List String) :=
  let height := (row.map List.length).foldl max 1
  (List.range height).map fun i =>
    (widths.zip row).map fun (width, cell) =>
      String.ofList (Text.padRight width (cell.getD i []))

/-! ## Names and values -/

/-- A line of a frame: the columns, between corners. -/
def frameLine (widths : List Nat) (left between right : String) : String :=
  indent ++ left
    ++ String.intercalate between (widths.map fun w => String.ofList (List.replicate (w + 2) '─'))
    ++ right

/-- A table of names and values. A value that does not fit into the terminal is broken. -/
def pairTable (rows : List (String × String)) : List String :=
  let cells := rows.map fun (name, value) => [textLines name, textLines value]
  let nameWidth := columnWidth cells 0
  let room := columns - indent.length - 7 - nameWidth
  let valueWidth := min room (columnWidth cells 1)
  let widths := [nameWidth, valueWidth]
  let rows := rows.map fun (name, value) =>
    [textLines name, (textLines value).flatMap fun line =>
      (Text.wrap valueWidth line).map (Text.dropTrailing Text.isBlank)]
  let body := rows.flatMap fun row => (rowLines widths row).map fun cells =>
    indent ++ "│ " ++ String.intercalate " │ " cells ++ " │"
  [frameLine widths "╭" "┬" "╮"] ++ body ++ [frameLine widths "╰" "┴" "╯"]

/-! ## Columns -/

/-- A table with a header and without a frame. -/
def columnTable (header : List String) (rows : List (List String)) : List String :=
  let cells := (header :: rows).map (·.map textLines)
  let widths := (List.range header.length).map (columnWidth cells)
  cells.flatMap fun row => (rowLines widths row).map fun line =>
    Text.trimEnd (indent ++ String.intercalate "    " line)

/-- A frame around a single pair. -/
theorem pairTable_single :
    pairTable [("Structs", "3")] = ["  ╭─────────┬───╮", "  │ Structs │ 3 │", "  ╰─────────┴───╯"] := by
  decide +kernel

end ServiceSchema.Terminal
