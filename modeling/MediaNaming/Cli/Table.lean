import MediaNaming.Cli.Markup
import MediaNaming.Number.Binary64
/-!
# Tables

A table has a title, headers and rows of cells between lines. A column is as wide as its widest
cell; if the table would not fit on the terminal, its widest columns are made narrower, and
cells go on in further lines.
-/

namespace MediaNaming.Cli.Table

/-- The same character many times. -/
def bar (c : Char) (count : Nat) : String :=
  String.ofList (List.replicate count c)

/-- A text with blanks behind it, up to a number of cells. -/
def fill (width : Nat) (s : String) : String :=
  s ++ bar ' ' (width - Text.cells s)

/-- A text in the middle of a line; of an odd number of blanks one more stands behind it. -/
def center (width : Nat) (s : String) : String :=
  let free := width - Text.cells s
  bar ' ' (free / 2) ++ s ++ bar ' ' (free - free / 2)

/-- A horizontal rule over all columns. -/
def rule (left line cross right : Char) (widths : List Nat) : String :=
  String.singleton left ++
    Text.joined (String.singleton cross) (widths.map fun w => bar line (w + 2)) ++
    String.singleton right

/-- One line of cells. -/
def cellLine (side : Char) (widths : List Nat) (cells : List String) : String :=
  let s := String.singleton side
  s ++ Text.joined s ((widths.zip cells).map fun e => " " ++ fill e.1 e.2 ++ " ") ++ s

/-- A backslash at the end of a cell is shown twice, unless another one stands in front of
it. -/
def cellText (s : String) : String :=
  match s.toList.reverse with
  | '\\' :: '\\' :: _ => s
  | '\\' :: _ => s ++ "\\"
  | _ => s

/-- What a cell shows. -/
def cellChars (s : String) : List Char :=
  Markup.printed (cellText s)

/-- The lines of a cell in a column. -/
def cellLines (width : Nat) (cs : List Char) : List String :=
  (Text.wrap width .ellipsis cs).map String.ofList

/-- The lines of a row: as many as its tallest cell has. -/
def rowLines (side : Char) (widths : List Nat) (row : List (List Char)) : List String :=
  let cells := (widths.zip row).map fun e => cellLines e.1 e.2
  let height := cells.foldl (fun n cell => max n cell.length) 0
  (List.range height).map fun i => cellLine side widths (cells.map fun cell => cell.getD i "")

/-- The cells between and around the columns of a table, with one line in front of each column
and one at the end. -/
def frameWidth (columns : Nat) : Nat :=
  columns + 1

/-- The width of every column, with a blank on both sides, if nothing bounds the table: that of
its widest cell. -/
def naturalWidths (headers : List String) (rows : List (List (List Char))) : List Nat :=
  headers.zipIdx.map fun (header, i) =>
    rows.foldl (fun n row => max n (Text.widestLine (row.getD i []))) (Text.cells header) + 2

/-- Takes `excess` cells from those of the widths that are `widest`, of which there are `count`,
in equal parts, but no more than `most` from one. -/
def trimmed (widest most excess count : Nat) : List Nat → List Nat
  | [] => []
  | w :: ws =>
    if w = widest && 0 < count then
      let part := min most (Number.Binary64.roundRatio excess count)
      (w - part) :: trimmed widest most (excess - part) (count - 1) ws
    else w :: trimmed widest most excess count ws

/-- The cells that columns take together. -/
def widthOf (widths : List Nat) : Nat :=
  widths.foldl (· + ·) 0

/-- Makes the widest columns narrower, until all fit into `room`; `fuel` bounds the number of
steps. -/
def narrowed (room : Nat) : Nat → List Nat → List Nat
  | 0, widths => widths
  | fuel + 1, widths =>
    if widthOf widths ≤ room then widths
    else
      let widest := widths.foldl max 0
      let second := (widths.filter (· ≠ widest)).foldl max 0
      let excess := widthOf widths - room
      narrowed room fuel
        (trimmed widest (min excess (widest - second)) excess (widths.count widest) widths)

/-- The width of every column. -/
def columnWidths (headers : List String) (rows : List (List (List Char))) : List Nat :=
  let room := Text.terminalWidth - frameWidth headers.length
  let widths := (naturalWidths headers rows).map (min room)
  (narrowed room (widthOf widths) widths).map (· - 2)

/-- A table with a title above it. -/
def lines (title : String) (headers : List String) (rows : List (List String)) : List String :=
  let cells := rows.map fun row => row.map cellChars
  let widths := columnWidths headers cells
  let total := widths.foldl (fun n w => n + w + 2) (frameWidth headers.length)
  [center total title, rule '┏' '━' '┳' '┓' widths, cellLine '┃' widths headers,
    rule '┡' '━' '╇' '┩' widths] ++
    cells.flatMap (rowLines '│' widths) ++ [rule '└' '─' '┴' '┘' widths]

end MediaNaming.Cli.Table
