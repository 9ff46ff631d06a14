import Crosslink.Console.Wrap

/-!
# Tables and panels

A table has a centred title, a heavy border around its header and a light one around its
body, and columns as wide as their widest lines. If those do not fit on the console, the widest
columns give way. A panel is a box of fixed width with
round corners and a centred title.
-/

namespace Crosslink.Console

/-- The width of the console. -/
def consoleWidth : Nat := 200

/-- Copies of a string next to each other. -/
def repeated (n : Nat) (s : String) : String := String.join (List.replicate n s)

/-- A column of a table. -/
structure Column where
  header : String
  /-- Are words that are too wide folded, or cut? -/
  folds : Bool
  deriving DecidableEq, Repr

/-- A title with and header cells above rows of cells. -/
structure Table where
  title : String
  columns : List Column
  rows : List (List String)
  deriving DecidableEq, Repr

namespace Table

/-- Does the character end a line for the width of a cell? More characters do than break the
cell when it is shown. -/
def endsCellLine (c : Char) : Bool :=
  let n := c.toNat
  (10 ≤ n && n ≤ 13) || (28 ≤ n && n ≤ 30) || n == 0x85 || n == 0x2028 || n == 0x2029

/-- The width of the widest line of a cell, in which tabs take no column. -/
def lineWidth (cell : String) : Nat :=
  ((cell.toList.splitOnP endsCellLine).map Text.charsWidth).foldl max 0

/-- The widths of columns, wide enough for the given cells. -/
def widen (widths : List Nat) (cells : List String) : List Nat :=
  widths.zipWith max (cells.map lineWidth)

/-- A number divided by another; a half goes to the even neighbour. -/
def evenShare (total parts : Nat) : Nat :=
  let share := total / parts
  let rest := 2 * (total % parts)
  if rest < parts || (rest == parts && share % 2 == 0) then share else share + 1

/-- Take `excess` from the widths that equal `widest`, of which there are `parts`, in even shares
of at most `most` each. -/
def takeShares (widest most : Nat) : (excess parts : Nat) → List Nat → List Nat
  | _, _, [] => []
  | excess, parts, w :: ws =>
    if w == widest then
      let share := min most (evenShare excess parts)
      (w - share) :: takeShares widest most (excess - share) (parts - 1) ws
    else w :: takeShares widest most excess parts ws

/-- Narrow the widest columns, at most to the next width below theirs, until all take no more
than `room`. -/
def narrow (room : Nat) : (fuel : Nat) → List Nat → List Nat
  | 0, ws => ws
  | fuel + 1, ws =>
    let excess := ws.foldl (· + ·) 0 - room
    if excess = 0 then ws
    else
      let widest := ws.foldl max 0
      let next := (ws.filter (· != widest)).foldl max 0
      narrow room fuel
        (takeShares widest (min excess (widest - next)) excess (ws.count widest) ws)

/-- The widths of the columns. A cell takes a space on each side, and there is a border before,
between and after the columns. -/
def widths (t : Table) : List Nat :=
  let wanted := t.rows.foldl widen (t.columns.map fun c => lineWidth c.header)
  let room := consoleWidth - (t.columns.length + 1)
  let padded := wanted.map fun w => min room (w + 2)
  (narrow room (padded.foldl (· + ·) 0) padded).map (· - 2)

/-- A border line with a piece of rule over each column. -/
def border (widths : List Nat) (left rule between right : String) : String :=
  left ++ String.intercalate between (widths.map fun w => repeated (w + 2) rule) ++ right

/-- One line of a row. -/
def line (widths : List Nat) (bar : String) (cells : List String) : String :=
  bar ++ String.intercalate bar
    (widths.zipWith (fun w cell => " " ++ Text.padRight w cell ++ " ") cells) ++ bar

/-- The lines of a row, as many as its highest cell has. -/
def rowLines (t : Table) (bar : String) (cells : List String) : List String :=
  let widths := t.widths
  let wrapped := ((t.columns.zip widths).zip cells).map fun ((c, w), cell) => wrap w c.folds cell
  let height := (wrapped.map List.length).foldl max 1
  (List.range height).map fun i => line widths bar (wrapped.map fun ls => ls.getD i "")

/-- The lines of a table. -/
def render (t : Table) : List String :=
  let ws := t.widths
  let total := ws.foldl (fun n w => n + w + 3) 1
  [repeated ((total - Text.cellWidth t.title) / 2) " " ++ t.title, border ws "┏" "━" "┳" "┓"]
    ++ t.rowLines "┃" (t.columns.map (·.header))
    ++ [border ws "┡" "━" "╇" "┩"]
    ++ t.rows.flatMap (t.rowLines "│")
    ++ [border ws "└" "─" "┴" "┘"]

end Table

/-- The lines of two columns without a border, two spaces before each. -/
def columns (rows : List (String × String)) : List String :=
  let width := (rows.map fun r => Text.cellWidth r.1).foldl max 0
  rows.map fun r => "  " ++ Text.padRight width r.1 ++ "    " ++ r.2

/-- The lines of a panel as wide as the console, two columns of padding on each side. -/
def panel (title body : String) : List String :=
  let inner := consoleWidth - 2
  let label := " " ++ title ++ " "
  let rest := inner - Text.cellWidth label
  let top := "╭" ++ repeated (rest / 2) "─" ++ label ++ repeated (rest - rest / 2) "─" ++ "╮"
  let line (s : String) : String := "│  " ++ Text.padRight (inner - 4) s ++ "  │"
  [top] ++ (wrap (inner - 4) true body).map line ++ ["╰" ++ repeated inner "─" ++ "╯"]

end Crosslink.Console
