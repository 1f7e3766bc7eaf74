import ScoreSieve.Text.Width

namespace ScoreSieve.Text

/-- The characters of a ruled line: its ends, its filling, and its crossings with columns. -/
structure Rule where
  left : String
  fill : Char
  cross : String
  right : String

/-- A line that is ruled for columns of the given widths, each with a space on either side. -/
def Rule.draw (rule : Rule) (widths : List Nat) : String :=
  let fill (width : Nat) : String := String.ofList (List.replicate (width + 2) rule.fill)
  rule.left ++ rule.cross.intercalate (widths.map fill) ++ rule.right

namespace Grid

def top : Rule := ⟨"┌", '─', "┬", "┐"⟩

def underHeader : Rule := ⟨"╞", '═', "╪", "╡"⟩

def betweenRows : Rule := ⟨"├", '╌', "┼", "┤"⟩

def bottom : Rule := ⟨"└", '─', "┴", "┘"⟩

def cellLines (cell : String) : List (List Char) :=
  cell.toList.splitOn '\n'

def columnWidths (header : List String) (rows : List (List String)) : List Nat :=
  header.zipIdx.map fun (title, column) =>
    let cells := title :: rows.filterMap (·[column]?)
    (cells.flatMap cellLines).foldl (fun widest line => max widest (width line)) 0

/-- A line of a cell, filled up with spaces. -/
def padded (columns : Nat) (line : List Char) : String :=
  String.ofList (line ++ List.replicate (columns - width line) ' ')

/-- The lines of a row, which is as high as its highest cell. -/
def rowLines (widths : List Nat) (cells : List String) : List String :=
  let columns := widths.zip (cells.map cellLines)
  let height := columns.foldl (fun highest (_, lines) => max highest lines.length) 0
  (List.range height).map fun line =>
    let parts := columns.map fun (width, lines) => padded width (lines[line]?.getD [])
    "│ " ++ " ┆ ".intercalate parts ++ " │"

/-- The lines of a table that is drawn with box characters. -/
def lines (header : List String) (rows : List (List String)) : List String :=
  let widths := columnWidths header rows
  let body := [betweenRows.draw widths].intercalate (rows.map (rowLines widths))
  [top.draw widths] ++ rowLines widths header ++ [underHeader.draw widths] ++ body ++
    [bottom.draw widths]

end Grid

def ofLines (lines : List String) : String :=
  String.join (lines.map (· ++ "\n"))

end ScoreSieve.Text
