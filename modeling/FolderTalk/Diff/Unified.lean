import FolderTalk.Diff.Compare

/-!
# Unified diffs

The changes between two texts are shown in hunks: the removed and added lines together with up to
three shared lines before and after them. Changes with at most six shared lines between them stand
in one hunk.
-/

namespace FolderTalk.Diff

/-- The shared lines shown before and after a change. -/
def context : Nat := 3

/-- Stretches that are shown together, with the number of lines before them in either text. -/
structure Hunk (α : Type) where
  oldStart : Nat
  newStart : Nat
  pieces : List (Piece α)
  deriving Repr

namespace Hunk

variable {α : Type}

def old (h : Hunk α) : List α := h.pieces.flatMap Piece.old

def new (h : Hunk α) : List α := h.pieces.flatMap Piece.new

/-- The hunk with one more stretch at its end. -/
def snoc (h : Hunk α) (p : Piece α) : Hunk α := { h with pieces := h.pieces ++ [p] }

/-- The hunk as part of a list, unless there is no change in it. -/
def ifChanged (h : Hunk α) : List (Hunk α) :=
  if h.pieces.any fun | .change .. => true | .same _ => false then [h] else []

/-- The hunks of stretches; `h` is the hunk being filled. A long shared stretch ends it and begins
the next one. -/
def gather (h : Hunk α) : List (Piece α) → List (Hunk α)
  | [] => h.ifChanged
  | .same items :: ps =>
    let opening := h.pieces.isEmpty
    let n := items.length
    if opening then
      let skipped := n - context
      gather ⟨h.oldStart + skipped, h.newStart + skipped, [.same (items.drop skipped)]⟩ ps
    else if ps.isEmpty then (h.snoc (.same (items.take context))).ifChanged
    else if 2 * context < n then
      let shown := h.snoc (.same (items.take context))
      let skipped := n - context
      shown :: gather ⟨shown.oldStart + h.old.length + skipped, shown.newStart + h.new.length + skipped,
        [.same (items.drop skipped)]⟩ ps
    else gather (h.snoc (.same items)) ps
  | p :: ps => gather (h.snoc p) ps

end Hunk

/-- The hunks of two lists. -/
def hunks {α : Type} [DecidableEq α] (old new : List α) : List (Hunk α) :=
  Hunk.gather ⟨0, 0, []⟩ (compare old new)

/-- The lines with the given number of lines before them, by number: one line by its own number,
other stretches by the first one and their length. -/
def rangeText (start length : Nat) : String :=
  if length == 1 then toString (start + 1)
  else toString (if length == 0 then start else start + 1) ++ "," ++ toString length

def Piece.shown : Piece (List Char) → List (List Char)
  | .same items => items.map (' ' :: ·)
  | .change removed added => removed.map ('-' :: ·) ++ added.map ('+' :: ·)

def Hunk.shown (h : Hunk (List Char)) : List (List Char) :=
  ("@@ -" ++ rangeText h.oldStart h.old.length ++ " +" ++ rangeText h.newStart h.new.length
    ++ " @@").toList :: h.pieces.flatMap Piece.shown

/-- The lines of the diff of two texts with the given names; none if there is no change. -/
def unified (oldName newName : String) (old new : List (List Char)) : List (List Char) :=
  match hunks old new with
  | [] => []
  | hs => ("--- " ++ oldName).toList :: ("+++ " ++ newName).toList :: hs.flatMap Hunk.shown

end FolderTalk.Diff
