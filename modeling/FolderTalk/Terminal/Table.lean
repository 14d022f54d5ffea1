import FolderTalk.Terminal.Markup
import FolderTalk.Terminal.Wrap
import FolderTalk.Text.Lines

/-!
# Drawn tables

A table of marked-up texts is drawn in a box, with a heavy frame around the head and a centred
title above it. Each column is as wide as its widest text; when the table is wider than the screen,
the widest columns give way.
-/

namespace FolderTalk.Terminal

open Text

/-- On which side the texts of a column stand. -/
inductive Side where
  | left | right
  deriving DecidableEq, Repr

/-- A column with its head and the texts below it. -/
structure Column where
  head : List Char
  side : Side := .left
  cells : List (List Char)

/-- A table; all columns have the same number of cells. -/
structure Table where
  title : List Char
  columns : List Column

namespace Column

/-- A column in which the tags are dropped. -/
def render (c : Column) : Except MarkupError Column := do
  let head ← Markup.render c.head
  let cells ← c.cells.mapM Markup.render
  return { c with head := head, cells := cells }

/-- The columns of the widest line of a text. -/
def textWidth (cs : List Char) : Nat := ((lines cs).map width).foldl max 0

/-- The columns that the texts need, with a blank on either side. -/
def needed (c : Column) : Nat := ((c.head :: c.cells).map textWidth).foldl max 0 + 2

/-- A line of a cell that is `n` columns wide inside. -/
def place (n : Nat) (side : Side) (line : List Char) : List Char :=
  let line := match side with
    | .left => line ++ blanks (n - width line)
    | .right => let line := trimEnd line; blanks (n - width line) ++ line
  ' ' :: (line ++ [' '])

/-- The lines of a cell in a column of `n` columns. -/
def cellLines (n : Nat) (side : Side) (cs : List Char) : List (List Char) :=
  (wrap (n - 2) .ellipsis cs).map (place (n - 2) side)

end Column

/-! ## Tables that are wider than the screen -/

/-- The whole number nearest to a quotient; a half goes to the even one. -/
def roundedQuotient (a b : Nat) : Nat :=
  let q := a / b
  let r := a % b
  if 2 * r < b || (2 * r == b && q % 2 == 0) then q else q + 1

/-- The columns that columns of the given widths take together. -/
def totalWidth (ws : List Nat) : Nat := ws.foldr (· + ·) 0

/-- Takes `total` from the widths that have the mark, at most `limit` from each, in equal shares;
`marked` widths are still to come. -/
def reduce (limit : Nat) : (total marked : Nat) → List (Nat × Bool) → List Nat
  | _, _, [] => []
  | total, marked, (w, false) :: ws => w :: reduce limit total marked ws
  | total, marked, (w, true) :: ws =>
    let share := min limit (roundedQuotient total marked)
    (w - share) :: reduce limit (total - share) (marked - 1) ws

/-- Brings widths to at most `room` together: the widest are reduced to the next width, again and
again, in at most `steps` steps. -/
def collapse (room : Nat) : (steps : Nat) → List Nat → List Nat
  | 0, ws => ws
  | steps + 1, ws =>
    let excess := totalWidth ws - room
    if excess == 0 then ws
    else
      let widest := ws.foldl max 0
      let next := (ws.filter (· != widest)).foldl max 0
      let marked := ws.map fun w => (w, w == widest)
      collapse room steps
        (reduce (min excess (widest - next)) excess (ws.filter (· == widest)).length marked)

namespace Table

/-- The columns of the screen that are left for `n` columns of the table. -/
def roomFor (n : Nat) : Nat := screenWidth - (n + 1)

/-- The widths of the columns. -/
def widths (columns : List Column) : List Nat :=
  let room := roomFor columns.length
  let ws := columns.map fun c => min room c.needed
  collapse room (totalWidth ws) ws

/-- A line of the frame over columns of the given widths. -/
def rule (left bar cross right : Char) (ws : List Nat) : List Char :=
  left :: (((ws.map fun w => List.replicate w bar).intersperse [cross]).flatten ++ [right])

/-- A row of texts, each in its lines, between the bars of the frame. -/
def rowLines (bar : Char) (ws : List Nat) (sides : List Side) (cells : List (List Char)) :
    List (List Char) :=
  let blocks := (ws.zip (sides.zip cells)).map fun (w, side, cell) =>
    (w, Column.cellLines w side cell)
  let height := (blocks.map fun b => b.2.length).foldl max 0
  (List.range height).map fun i =>
    bar :: (((blocks.map fun (w, ls) => ls.getD i (blanks w)).intersperse [bar]).flatten ++ [bar])

/-- The title above a table of `n` columns, centred. -/
def titleLines (n : Nat) (title : List Char) : List (List Char) :=
  (wrap n .fold title).map fun line =>
    let line := trimEnd line
    blanks ((n - width line) / 2) ++ line

/-- The row with a number, counted from zero. -/
def row (columns : List Column) (i : Nat) : List (List Char) := columns.map fun c => c.cells.getD i []

/-- The lines of a table. -/
def draw (t : Table) : Except MarkupError (List (List Char)) := do
  let columns ← t.columns.mapM Column.render
  let title ← Markup.render t.title
  let ws := widths columns
  let sides := columns.map (·.side)
  let count := (columns.map fun c => c.cells.length).foldl max 0
  return (if t.title.isEmpty then [] else titleLines (totalWidth ws + ws.length + 1) title)
    ++ [rule '┏' '━' '┳' '┓' ws]
    ++ rowLines '┃' ws sides (columns.map (·.head))
    ++ [rule '┡' '━' '╇' '┩' ws]
    ++ (List.range count).flatMap (fun i => rowLines '│' ws sides (row columns i))
    ++ [rule '└' '─' '┴' '┘' ws]

end Table

end FolderTalk.Terminal
