import FolderTalk.Terminal.Markup
import FolderTalk.Terminal.Wrap

/-!
# Drawn trees

A tree of marked-up labels is drawn with one label a line, below one another, and guide lines from
each label to those below it.
-/

namespace FolderTalk.Terminal

/-- A tree of labels. -/
inductive Tree where
  | node (label : List Char) (children : List Tree)

namespace Tree

/-- The guide in front of a label. -/
def branchGuide (isLast : Bool) : List Char := (if isLast then "└── " else "├── ").toList

/-- The guide in front of what stands below a label. -/
def trunkGuide (isLast : Bool) : List Char := (if isLast then "    " else "│   ").toList

/-- The lines of a label behind guides: the first line has `first` before it, the others
`others`. -/
def labelLines (first others label : List Char) : Except MarkupError (List (List Char)) :=
  (Markup.render label).map fun text =>
    match wrap (screenWidth - width first) .fold text with
    | [] => []
    | line :: lines => (first ++ line) :: lines.map (others ++ ·)

mutual

/-- The lines of a tree. The line of its label has `first` before it, all other lines `others`. -/
def drawBehind (first others : List Char) : Tree → Except MarkupError (List (List Char))
  | node label children =>
    match labelLines first others label, drawAll others children with
    | .ok lines, .ok below => .ok (lines ++ below)
    | .error e, _ => .error e
    | _, .error e => .error e

/-- The lines of trees that hang at one label, behind a guide. -/
def drawAll (guide : List Char) : List Tree → Except MarkupError (List (List Char))
  | [] => .ok []
  | t :: ts =>
    let isLast := ts.isEmpty
    match drawBehind (guide ++ branchGuide isLast) (guide ++ trunkGuide isLast) t, drawAll guide ts with
    | .ok lines, .ok below => .ok (lines ++ below)
    | .error e, _ => .error e
    | _, .error e => .error e

end

/-- The lines of a tree. -/
def draw (t : Tree) : Except MarkupError (List (List Char)) := t.drawBehind [] []

end Tree

end FolderTalk.Terminal
