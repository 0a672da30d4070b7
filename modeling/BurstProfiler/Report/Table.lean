import BurstProfiler.Text.Blank
import BurstProfiler.Text.Width

/-! Tables of text. Every column is as wide as the widest line in it and at least one wide; a cell
has a blank on each side, and a line break in a cell starts another line of the row. -/

set_option autoImplicit false

namespace BurstProfiler.Report

open BurstProfiler.Text

inductive Alignment where
  | left
  | right
  deriving DecidableEq, Repr

structure Cell where
  text : List Char
  alignment : Alignment
  deriving DecidableEq, Repr

def Cell.ofString (text : String) : Cell := ⟨text.toList, .left⟩

def Cell.lines (c : Cell) : List (List Char) := splitAt '\n' c.text

structure Rule where
  fill : Char
  edge : List Char
  crossing : List Char
  deriving DecidableEq, Repr

structure Style where
  edge : List Char
  divider : List Char
  above : Option Rule
  underHeader : Option Rule
  underRow : Option Rule
  deriving DecidableEq, Repr

def Style.ruled : Style where
  edge := []
  divider := [' ']
  above := some ⟨'─', [], ['─']⟩
  underHeader := some ⟨'═', [], ['═']⟩
  underRow := some ⟨'─', [], ['─']⟩

def Style.markdown : Style where
  edge := ['|']
  divider := ['|']
  above := none
  underHeader := some ⟨'-', ['|'], ['|']⟩
  underRow := none

structure Table where
  style : Style
  header : List Cell
  rows : List (List Cell)

namespace Table

def cellWidth (c : Cell) : Nat := (c.lines.map displayWidth).foldl max 0

def widths (t : Table) : List Nat :=
  (List.range t.header.length).map (fun i =>
    ((t.header :: t.rows).map (fun row => (row[i]?.map cellWidth).getD 0)).foldl max 1)

def paddedLine (width : Nat) (alignment : Alignment) (line : List Char) : List Char :=
  let fill := List.replicate (width - displayWidth line) ' '
  match alignment with
  | .left => [' '] ++ line ++ fill ++ [' ']
  | .right => [' '] ++ fill ++ line ++ [' ']

def ruleLine (widths : List Nat) (r : Rule) : List Char :=
  r.edge ++ r.crossing.intercalate (widths.map (fun w => List.replicate (w + 2) r.fill)) ++ r.edge

/-- The lines of a row: as many as its cell with the most lines has. -/
def rowLines (style : Style) (widths : List Nat) (row : List Cell) : List (List Char) :=
  let height := (row.map (fun c => c.lines.length)).foldl max 0
  (List.range height).map (fun i =>
    style.edge ++
      style.divider.intercalate ((row.zip widths).map (fun (c, width) =>
        paddedLine width c.alignment ((c.lines[i]?).getD []))) ++
      style.edge)

def lines (t : Table) : List (List Char) :=
  let widths := t.widths
  let rule := fun (r : Option Rule) => (r.map (ruleLine widths)).toList
  rule t.style.above ++ rowLines t.style widths t.header ++ rule t.style.underHeader ++
    t.rows.flatMap (fun row => rowLines t.style widths row ++ rule t.style.underRow)

def text (t : Table) : List Char := ['\n'].intercalate t.lines

end Table

end BurstProfiler.Report
