import ItabRecovery.Text.Columns

/-!
# Tables with rounded borders

Cells are left-aligned with a space on either side.  A cell may have several lines; its row is
as high as its highest cell, and a column as wide as the widest line in it.
-/

namespace ItabRecovery.Report

/-- The lines of a text, cut at each line feed; a text that ends with one has an empty last line. -/
def lines (s : String) : List (List Char) :=
  s.toList.foldr (fun c rest => if c = '\n' then [] :: rest else (c :: rest.headD []) :: rest.tail)
    [[]]

def cellWidth (cell : String) : Nat :=
  ((lines cell).map Text.columns).foldl max 0

def columnWidths (rows : List (List String)) : List Nat :=
  rows.foldl (fun widths row => widths.zipWith max (row.map cellWidth))
    ((rows.headD []).map fun _ => 0)

/-- A horizontal border: its left end, the crossing between two columns and its right end. -/
def border (left crossing right : Char) (widths : List Nat) : List Char :=
  left :: List.intercalate [crossing] (widths.map fun w => List.replicate (w + 2) '─') ++ [right]

/-- One line of a cell, filled up to the width of its column. -/
def padded (width : Nat) (line : List Char) : List Char :=
  ' ' :: line ++ List.replicate (width - Text.columns line) ' ' ++ [' ']

def rowLines (widths : List Nat) (row : List String) : List (List Char) :=
  let cells := row.map lines
  let height := (cells.map List.length).foldl max 0
  (List.range height).map fun i =>
    '│' :: List.intercalate ['│'] (widths.zipWith padded (cells.map (·.getD i []))) ++ ['│']

/-- A table of a heading and the rows below it, without a line feed at the end. -/
def table (heading : List String) (rows : List (List String)) : String :=
  let widths := columnWidths (heading :: rows)
  String.ofList <| List.intercalate ['\n'] <|
    [border '╭' '┬' '╮' widths] ++ rowLines widths heading ++ [border '├' '┼' '┤' widths] ++
      rows.flatMap (rowLines widths) ++ [border '╰' '┴' '╯' widths]

end ItabRecovery.Report
