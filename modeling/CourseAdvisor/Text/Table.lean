/-
This file draws tables with lines around their cells.
-/

import CourseAdvisor.Text.Width

namespace CourseAdvisor.Text

/-- A cell is as many lines as its text. -/
def lines (text : String) : List (List Char) := (text.splitOn "\n").map String.toList

/-- Every row has as many cells as the header. -/
structure Table where
  header : List String
  rows : List (List String)

/-- A horizontal line has a left end, a stroke, a crossing and a right end. -/
structure Ruling where
  left : Char
  stroke : Char
  crossing : Char
  right : Char

namespace Ruling

def top : Ruling := ⟨'┌', '─', '┬', '┐'⟩

def middle : Ruling := ⟨'╞', '═', '╪', '╡'⟩

def bottom : Ruling := ⟨'└', '─', '┴', '┘'⟩

/-- A cell has a blank on each side of its text. -/
def drawn (ruling : Ruling) (widths : List Nat) : List Char :=
  let strokes := widths.map fun width => List.replicate (width + 2) ruling.stroke
  ruling.left :: [ruling.crossing].intercalate strokes ++ [ruling.right]

end Ruling

namespace Table

def columnWidth (table : Table) (column : Nat) : Nat :=
  let cells := (table.header :: table.rows).filterMap fun row => row[column]?
  ((cells.flatMap lines).map width).foldl max 0

def columnWidths (table : Table) : List Nat :=
  (List.range table.header.length).map table.columnWidth

/-- Text is filled up with blanks on the right. -/
def padded (columns : Nat) (line : List Char) : List Char :=
  ' ' :: line ++ List.replicate (columns - width line + 1) ' '

def line (widths : List Nat) (parts : List (List Char)) : List Char :=
  '│' :: ['┆'].intercalate (List.zipWith padded widths parts) ++ ['│']

/-- A row is as high as its highest cell. -/
def row (widths : List Nat) (cells : List String) : List (List Char) :=
  let columns := cells.map lines
  let height := (columns.map List.length).foldl max 0
  (List.range height).map fun index =>
    line widths (columns.map fun column => column[index]?.getD [])

/-- Only the header is ruled off from the rows. -/
def drawn (table : Table) : List (List Char) :=
  let widths := table.columnWidths
  Ruling.top.drawn widths :: row widths table.header ++
    Ruling.middle.drawn widths :: table.rows.flatMap (row widths) ++
    [Ruling.bottom.drawn widths]

def text (table : Table) : String :=
  String.ofList (['\n'].intercalate table.drawn)

end Table

end CourseAdvisor.Text
