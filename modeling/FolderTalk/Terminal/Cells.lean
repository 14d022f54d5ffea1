import FolderTalk.Text.GlyphRanges
import FolderTalk.Text.Word

/-!
# Columns of a terminal

Characters take no column, one column or two columns. Here a text is measured in columns, cut to a
number of columns and brought to an exact width.
-/

namespace FolderTalk.Terminal

open Text

/-- The columns that a character takes; controls and combining marks take none. -/
def charWidth (c : Char) : Nat :=
  let n := c.toNat
  if n < 0x7f then (if n < 0x20 then 0 else 1)
  else if n < 0xa0 || inRanges zeroWidthRanges n then 0
  else if inRanges doubleWidthRanges n then 2
  else 1

/-- The columns that a text takes. -/
def width : List Char → Nat
  | [] => 0
  | c :: cs => charWidth c + width cs

/-- The longest beginning that fits into a number of columns. -/
def clip : Nat → List Char → List Char
  | _, [] => []
  | room, c :: cs => if charWidth c ≤ room then c :: clip (room - charWidth c) cs else []

def blanks (n : Nat) : List Char := List.replicate n ' '

/-- The text in exactly `n` columns: cut, or filled up with blanks. -/
def fit (n : Nat) (cs : List Char) : List Char :=
  let kept := clip n cs
  kept ++ blanks (n - width kept)

/-- Cuts a text into pieces that fit into a number of columns each; `piece` is the one being
filled, last character first, and takes `used` columns. -/
def chopFrom (n : Nat) (piece : List Char) (used : Nat) : List Char → List (List Char)
  | [] => [piece.reverse]
  | c :: cs =>
    if used + charWidth c ≤ n then chopFrom n (c :: piece) (used + charWidth c) cs
    else piece.reverse :: chopFrom n [c] (charWidth c) cs

/-- Cuts a text into pieces that fit into a number of columns each. -/
def chop (n : Nat) (cs : List Char) : List (List Char) := chopFrom n [] 0 cs

theorem flatten_chopFrom (n : Nat) (piece : List Char) (used : Nat) (cs : List Char) :
    (chopFrom n piece used cs).flatten = piece.reverse ++ cs := by
  induction cs generalizing piece used with
  | nil => simp [chopFrom]
  | cons c cs ih =>
    rw [chopFrom]
    split
    · simp [ih]
    · simp [ih]

/-- The pieces make up the text. -/
theorem flatten_chop (n : Nat) (cs : List Char) : (chop n cs).flatten = cs := by
  simp [chop, flatten_chopFrom]

/-- Fills each tab with blanks up to the next multiple of `stop`, with at least one blank; `used`
columns come before, and `columns` says how many a character takes. -/
def expandTabsFrom (stop : Nat) (columns : Char → Nat) (used : Nat) : List Char → List Char
  | [] => []
  | c :: cs =>
    if c == '\t' then
      let n := stop - used % stop
      blanks n ++ expandTabsFrom stop columns (used + n) cs
    else c :: expandTabsFrom stop columns (used + columns c) cs

/-- A line of text with its tabs expanded. -/
def expandTabs (cs : List Char) : List Char := expandTabsFrom 8 charWidth 0 cs

/-- A line of code with its tabs expanded; every character counts as one column. -/
def expandCodeTabs (cs : List Char) : List Char := expandTabsFrom 4 (fun _ => 1) 0 cs

theorem width_append (a b : List Char) : width (a ++ b) = width a + width b := by
  induction a with
  | nil => simp [width]
  | cons c cs ih =>
    simp only [List.cons_append, width, ih]
    omega

theorem width_clip_le (n : Nat) (cs : List Char) : width (clip n cs) ≤ n := by
  induction cs generalizing n with
  | nil => simp [clip, width]
  | cons c cs ih =>
    rw [clip]
    split
    · have := ih (n - charWidth c)
      rw [width]
      omega
    · simp [width]

theorem width_blanks (n : Nat) : width (blanks n) = n := by
  have h : charWidth ' ' = 1 := rfl
  induction n with
  | zero => rfl
  | succ n ih =>
    rw [blanks, List.replicate_succ, width, h, ← blanks, ih]
    omega

theorem width_fit (n : Nat) (cs : List Char) : width (fit n cs) = n := by
  have := width_clip_le n cs
  simp only [fit, width_append, width_blanks]
  omega

end FolderTalk.Terminal
