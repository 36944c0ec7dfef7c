import BufferMachine.Text.Blank
import BufferMachine.Text.Width

/-!
# Boxed tables

A table in a frame of box-drawing characters.  A column is as wide as its widest line, with a space
on either side; headings are centred and cells start at the left.  A table without rows has no line
under the headings.

A cell of several lines makes its row several lines high.  Blanks around a cell do not count, and
neither do blanks around a line of it for the width of its column: a line that takes more room with
its blanks is cut off.  A line after the first that would be blank in all columns is left out.
-/

namespace BufferMachine.Box

/-! ### Cells -/

def cellLines (cell : Bytes) : List Bytes := Bytes.pieces newline (Text.trim cell)

/-- How many columns of the screen a cell takes. -/
def width (cell : Bytes) : Nat :=
  ((cellLines cell).map fun line => Text.width (Text.trim line)).foldl max 0

def widths (rows : List (List Bytes)) : List Nat :=
  rows.foldr (fun row ws =>
    List.zipWithAll (fun cell w => max ((cell.map width).getD 0) (w.getD 0)) row ws) []

/-- The lines that a row takes: the cells side by side, the shorter ones filled up with empty
lines. -/
def rowLines (row : List Bytes) : List (List Bytes) :=
  let cells := row.map cellLines
  let lines := (List.range ((cells.map List.length).foldl max 0)).map fun i => cells.map fun cell =>
    cell.getD i []
  lines.take 1 ++ (lines.drop 1).filter fun line => !line.all fun part => (Text.trim part).isEmpty

/-! ### Alignment -/

/-- The characters at the start of a text that fit into so many columns. -/
def startOf : Nat → List Utf8.Character → Bytes
  | _, [] => []
  | room, r :: rest =>
    let taken := Text.characterWidth r.code
    if taken ≤ room then Utf8.encode r.code ++ startOf (room - taken) rest else []

/-- A line cut off so that it fits into so many columns. -/
def fitted (w : Nat) (line : Bytes) : Bytes :=
  if Text.width line ≤ w then line else startOf w (Utf8.characters line)

def spaces (count : Nat) : Bytes := List.replicate count (byte ' ')

def leftAligned (w : Nat) (line : Bytes) : Bytes :=
  let shown := fitted w line
  shown ++ spaces (w - Text.width shown)

/-- A text in the middle; an odd space goes to the right. -/
def centred (w : Nat) (line : Bytes) : Bytes :=
  let room := w - Text.width line
  spaces (room / 2) ++ line ++ spaces (room - room / 2)

/-! ### Tables -/

/-- A horizontal line with the given ends and joints. -/
def rule (left joint right : String) (ws : List Nat) : Bytes :=
  bytes left ++ List.intercalate (bytes joint) (ws.map fun w => Bytes.copies (w + 2) (bytes "─")) ++
    bytes right ++ [newline]

def line (align : Nat → Bytes → Bytes) (ws : List Nat) (texts : List Bytes) : Bytes :=
  bytes "│ " ++ List.intercalate (bytes " │ ") (List.zipWith align ws texts) ++
    bytes " │" ++ [newline]

def render (headings : List Bytes) (rows : List (List Bytes)) : Bytes :=
  let ws := widths (headings :: rows)
  let body :=
    if rows.isEmpty then []
    else rule "├" "┼" "┤" ws ++ rows.flatMap fun row => (rowLines row).flatMap (line leftAligned ws)
  rule "┌" "┬" "┐" ws ++ line centred ws headings ++ body ++ rule "└" "┴" "┘" ws

end BufferMachine.Box
