import FeedReader.Terminal.Layout
import FeedReader.Terminal.Markup

/-!
# Tables

A table has a title over it, a heavy frame around its header, and a light frame around its rows.
Each column is as wide as its widest cell, with a blank on both sides.

* `Table`, `Table.plain?`: the table as it is shown;
* `Table.columnWidths`, `Table.frame`, `Table.rowLines`;
* `Table.lines?`.
-/

namespace FeedReader.Terminal

/-- A title, the names of the columns, and rows of as many cells. -/
structure Table where
  title : Text
  header : List Text
  rows : List (List Text)
  deriving DecidableEq

namespace Table

/-! ### Columns and rows -/

/-- The table with all markup taken out, if it can be. -/
def plain? (t : Table) : Option Table := do
  let title ← Terminal.plain? t.title
  let header ← t.header.mapM Terminal.plain?
  let rows ← t.rows.mapM fun row => row.mapM Terminal.plain?
  some ⟨title, header, rows⟩

/-- Whether a character ends a line of a cell when its width is taken. -/
def isLineEnd (c : Char) : Bool :=
  c = '\n' || c = '\x1c' || c = '\x1d' || c = '\x1e' || c = '\u0085' || c = '\u2028' ||
    c = '\u2029'

/-- The width of a cell, which is that of its widest line. -/
def cellWidth (cell : Text) : Nat :=
  ((Text.splitAtEach '\n' (cell.map fun c => if isLineEnd c then '\n' else c)).map width).foldl
    max 0

/-- The lines of a cell in a column of the given width. -/
def cellLines (n : Nat) (cell : Text) : List Text :=
  (Text.splitAtEach '\n' cell).flatMap fun line =>
    (wrap n false (expandTabs line)).map fun t => shorten n (trimBeyond n t)

/-- The larger of two widths in each column. -/
def widen (widths : List Nat) (row : List Text) : List Nat :=
  List.zipWith max widths (row.map cellWidth)

/-- The widths of the columns. -/
def columnWidths (t : Table) : List Nat := t.rows.foldl widen (t.header.map cellWidth)

/-- A line of the frame: its ends, what it is drawn with, and what separates the columns. -/
def frame (first line between last : Char) (widths : List Nat) : Text :=
  first :: (Text.joinWith [between] (widths.map fun n => List.replicate (n + 2) line) ++ [last])

/-- The lines of a row, with the given separator around its cells. -/
def rowLines (separator : Char) (widths : List Nat) (row : List Text) : List Text :=
  let cells := List.zipWith (fun n cell => (cellLines n cell).map (pad n)) widths row
  let height := (cells.map List.length).foldl max 1
  (List.range height).map fun i =>
    let shown (n : Nat) (cell : List Text) : Text :=
      ' ' :: (cell.getD i (List.replicate n ' ') ++ [' '])
    separator :: (Text.joinWith [separator] (List.zipWith shown widths cells) ++ [separator])

/-- The lines of a table without markup. -/
def lines (t : Table) : List Text :=
  let widths := t.columnWidths
  let total := widths.foldl (· + 3 + ·) 1
  (wrap total true t.title).map (fun line => center total (Text.trimEnd line)) ++
    [frame '┏' '━' '┳' '┓' widths] ++ rowLines '┃' widths t.header ++
    [frame '┡' '━' '╇' '┩' widths] ++ t.rows.flatMap (rowLines '│' widths) ++
    [frame '└' '─' '┴' '┘' widths]

/-- The lines of a table; nothing if its markup is broken. -/
def lines? (t : Table) : Option (List Text) := t.plain?.map lines

end Table

end FeedReader.Terminal
